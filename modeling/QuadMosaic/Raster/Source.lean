import QuadMosaic.Raster.Basic
import QuadMosaic.Georeference.Basic
import QuadMosaic.Text.Path

/-!
# Raster sources

A source is what is known about an image without reading its pixels.
-/

namespace QuadMosaic

/-- How the bands of an image are used. -/
inductive PixelFormat
  | gray | grayAlpha | rgb | rgba
  deriving DecidableEq, Repr, Inhabited

namespace PixelFormat

/-- The name of a pixel format. -/
def name : PixelFormat → String
  | gray => "gray"
  | grayAlpha => "graya"
  | rgb => "rgb"
  | rgba => "rgba"

/-- The pixel format of a name. -/
def ofName? (name : String) : Option PixelFormat :=
  [gray, grayAlpha, rgb, rgba].find? (·.name = name)

/-- The format of an image with the given number of bands; from four on the others are not used. -/
def ofBandCount : Nat → PixelFormat
  | 1 => gray
  | 2 => grayAlpha
  | 3 => rgb
  | _ => rgba

/-- Whether the last band used holds transparency. -/
def hasAlpha : PixelFormat → Bool
  | grayAlpha | rgba => true
  | gray | rgb => false

/-- The number of colour bands. -/
def colorBands : PixelFormat → Nat
  | gray | grayAlpha => 1
  | rgb | rgba => 3

/-- The number of bands used. -/
def usedBands (f : PixelFormat) : Nat := f.colorBands + if f.hasAlpha then 1 else 0

theorem colorBands_pos (f : PixelFormat) : 0 < f.colorBands := by cases f <;> decide

end PixelFormat

/-- What is known about an image. -/
structure RasterSource (α : Type) (C : Type := Crs) where
  path : Path
  format : PixelFormat
  channel : ChannelType
  cols : Nat
  rows : Nat
  bandCount : Nat
  /-- The value that marks pixels without data. -/
  nodata : Option α
  crs : Option C
  transform : Affine α

namespace RasterSource

variable {α C : Type} [Scalar α]

/-- The name of the image in messages. -/
def label (s : RasterSource α C) : String := s.path.name

/-- The box of all pixels. -/
def box (s : RasterSource α C) : PixelBox := ⟨0, 0, s.cols, s.rows⟩

/-- The georeference that the image carries: a reference system together with an affine map that
does something. -/
def georeference? (s : RasterSource α C) : Option (Georeference α C) :=
  match s.crs with
  | none => none
  | some crs => if s.transform.same Affine.identity then none else some ⟨crs, s.transform⟩

/-- What is known about an image, as data. -/
def toFields (s : RasterSource Float) : Fields :=
  [("path", .str s.path.toString), ("pixel_format", .str s.format.name),
    ("channel_type", .str s.channel.name), ("cols", .int s.cols), ("rows", .int s.rows),
    ("nodata", Json.ofOption .real s.nodata),
    ("georeference", Json.ofOption Georeference.toJson s.georeference?)]

end RasterSource

end QuadMosaic
