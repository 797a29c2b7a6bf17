import QuadMosaic.Raster.Source

/-!
# The range of pixel values

Normalising stretches the range of values that the sources share to the full range of a channel.
The first pass over the sources finds that range among the pixels that hold data.
-/

namespace QuadMosaic

/-- The least and the greatest value of some channels. -/
structure PixelRange (α : Type) where
  lo : α
  hi : α
  deriving DecidableEq, Repr

namespace PixelRange

variable {α : Type} [Scalar α]

open Scalar

/-- The width of a range. -/
def span (r : PixelRange α) : α := r.hi - r.lo

/-- The range that covers two ranges. -/
def merge (r s : PixelRange α) : PixelRange α := ⟨lesser r.lo s.lo, greater r.hi s.hi⟩

/-- A value taken linearly from the range to the numbers from zero to one, and kept between them.  A
range without width takes every value to zero. -/
def normalise (r : PixelRange α) (x : α) : α :=
  if !lt zero r.span && !isNaN r.span then zero else clamp zero one ((x - r.lo) / r.span)

/-- The range of a list of values, when there are any. -/
def ofValues? : List α → Option (PixelRange α)
  | [] => none
  | x :: rest => some (rest.foldl (fun r y ↦ ⟨meet r.lo y, join r.hi y⟩) ⟨x, x⟩)

/-- The range that covers all ranges found, in order. -/
def mergeAll? (found : List (Option (PixelRange α))) : Option (PixelRange α) :=
  match found.filterMap id with
  | [] => none
  | r :: rest => some (rest.foldl merge r)

end PixelRange

namespace Raster

variable {α : Type} [Scalar α]

open Scalar

/-- Whether every colour channel of a pixel holds the value that marks missing data. -/
def isMasked (r : Raster α) (nodata : Option α) (y x : Nat) : Bool :=
  match nodata with
  | none => false
  | some v =>
    (List.range r.bands).all fun b ↦
      if isNaN v then isNaN (r.sample b y x).toScalar else eq (r.sample b y x).toScalar v

/-- The channels of all pixels that hold data, colour bands being given alone. -/
def unmasked (r : Raster α) (nodata : Option α) : List α :=
  let places := r.places.filter fun (y, x) ↦ !r.isMasked nodata y x
  (List.range r.bands).flatMap fun b ↦ places.map fun (y, x) ↦ (r.sample b y x).toScalar

end Raster

namespace RasterSource

variable {α : Type} [Scalar α]

/-- The value that marks missing data: the one configured, else the image's own. -/
def effectiveNodata (s : RasterSource α) (configured : Option α) : Option α :=
  match configured with
  | some v => some v
  | none => s.nodata

/-- The range of the colour channels of the pixels that hold data. -/
def observedRange? (s : RasterSource α) (configured : Option α) (pixels : Raster α) :
    Option (PixelRange α) :=
  PixelRange.ofValues?
    ((pixels.take s.format.colorBands).unmasked (s.effectiveNodata configured))

end RasterSource

end QuadMosaic
