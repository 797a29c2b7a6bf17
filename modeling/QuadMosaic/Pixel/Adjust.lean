import QuadMosaic.Pixel.Range

/-!
# Pixels adjusted before they are warped

The pixels of a source become colour bands and a band of transparency in the channel type of the
output.  Pixels without data become transparent before any value is changed.
-/

namespace QuadMosaic

/-- How pixel values are changed. -/
structure PixelOptions (α : Type) where
  nodata : Option α := none
  scale : α
  offset : α
  normalize : Bool := false

namespace PixelOptions

variable {α : Type} [Scalar α]

open Scalar

/-- Options that change nothing. -/
def unchanged : PixelOptions α := { scale := one, offset := zero }

/-- Whether values are scaled or moved. -/
def rescales (o : PixelOptions α) : Bool := !eq o.scale one || !eq o.offset zero

/-- A colour value after normalising or rescaling. -/
def value (o : PixelOptions α) (range : Option (PixelRange α)) (full x : α) : α :=
  match o.normalize, range with
  | true, some r => r.normalise x * full
  | true, none => x
  | false, _ => if o.rescales then x * o.scale + o.offset else x

end PixelOptions

/-- Bands of numbers: a band, a row and a column give a value. -/
abbrev Planes (α : Type) := Nat → Nat → Nat → α

namespace Planes

variable {α : Type} [Scalar α]

/-- The mean of the first `n` bands, added from the first on. -/
def mean (planes : Planes α) (n : Nat) (y x : Nat) : α :=
  ((List.range n).map fun b ↦ planes b y x).foldl (· + ·) Scalar.zero / Scalar.ofInt n

/-- `given` bands brought to `wanted` ones: unchanged when there are as many, their mean for a
single one, otherwise the first one repeated. -/
def matchBands (planes : Planes α) (given wanted : Nat) : Planes α := fun b y x ↦
  if given = wanted then planes b y x
  else if wanted = 1 then planes.mean given y x
  else planes 0 y x

/-- The number of bands that `given` ones become when `wanted` are asked for; no band cannot be
repeated, and none can be repeated a fraction of times. -/
def bandCount {κ : Type} [Coordinate κ] (given : Nat) (wanted : κ) : Except Fault Nat :=
  if Coordinate.same wanted (Coordinate.ofInt given) then .ok given
  else if Coordinate.same wanted (Coordinate.ofInt 1) then .ok 1
  else
    match Coordinate.index? wanted with
    | none => .error (.value .badKind)
    | some n =>
      if Raster.addressLimit ≤ n.natAbs then .error (.value .outOfRange)
      else if n < 0 then .error (.value .badValue)
      else .ok (if given = 0 then 0 else n.toNat)

end Planes

namespace RasterSource

variable {α : Type} [Scalar α]

open Scalar

/-- The transparency of a pixel that holds data, on the scale of a channel type. -/
def opacity (s : RasterSource α) (pixels : Raster α) (channel : ChannelType) (y x : Nat) : α :=
  if s.format.hasAlpha then
    (pixels.sample (pixels.bands - 1) y x).toScalar / s.channel.full * channel.full
  else channel.full

/-- The pixels of a source as colour bands and transparency in a channel type. -/
def adjust (s : RasterSource α) (pixels : Raster α) (options : PixelOptions α)
    (channel : ChannelType) (colorBands : Nat) (range : Option (PixelRange α)) :
    Except Fault (Raster α) :=
  if options.normalize && range.isNone then .error (.config .pixelRangeAbsent)
  else
    let color := pixels.take s.format.colorBands
    let nodata := s.effectiveNodata options.nodata
    let valued : Planes α := fun b y x ↦
      options.value range channel.full (color.sample b y x).toScalar
    let bands := valued.matchBands color.bands colorBands
    .ok {
      bands := colorBands + 1
      rows := pixels.rows
      cols := pixels.cols
      sample := fun b y x ↦
        channel.cast
          (if color.isMasked nodata y x then zero
          else if b < colorBands then bands b y x
          else s.opacity pixels channel y x) }

end RasterSource

end QuadMosaic
