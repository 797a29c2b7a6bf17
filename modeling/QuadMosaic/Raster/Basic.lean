import QuadMosaic.Raster.Channel
import QuadMosaic.Grid.PixelBox

/-!
# Rasters

A raster is a stack of bands of equal size, seen as a function from band, row and column.  The
function may be computed on demand or read from memory; `Raster.force` turns the first into the
second.
-/

namespace QuadMosaic

/-- A stack of bands.  Samples outside the stated size have no meaning. -/
structure Raster (α : Type) where
  bands : Nat
  rows : Nat
  cols : Nat
  /-- The sample at a band, a row and a column. -/
  sample : Nat → Nat → Nat → Sample α

/-- An array of any number of dimensions. -/
structure Block (α : Type) where
  shape : List Nat
  /-- The sample at a position, one index for each dimension. -/
  sample : List Nat → Sample α

namespace Raster

variable {α : Type}

/-- The number of bytes that cannot be addressed any more. -/
def addressLimit : Nat := 9223372036854775808

/-- Why there can be no array with the given lengths, of some bytes for each sample.  The lengths
multiply the bytes one after the other, those of zero left out; the first one that is negative, or
that makes more bytes than can be addressed, is the cause. -/
def sizeFault? (bytes : Nat) : List Int → Option ShapeFault
  | [] => none
  | n :: lengths =>
    if n = 0 then sizeFault? bytes lengths
    else if n < 0 then some .negativeLength
    else if addressLimit ≤ bytes * n.toNat then some .tooLarge
    else sizeFault? (bytes * n.toNat) lengths

/-- A failure when there can be no array with the given lengths, of eight bytes for each sample. -/
def checkSize (lengths : List Int) : Except Fault Unit :=
  if (sizeFault? 8 lengths).isSome then .error (.value .badValue) else .ok ()

/-- The raster of the given size whose samples stand in memory. -/
def ofArray (bands rows cols : Nat) (samples : Array (Sample α)) : Raster α where
  bands := bands
  rows := rows
  cols := cols
  sample b y x := samples.getD ((b * rows + y) * cols + x) (.whole 0)

/-- All samples computed once, in order of memory. -/
def samples (r : Raster α) : Array (Sample α) :=
  Array.ofFn fun i : Fin (r.bands * r.rows * r.cols) ↦
    r.sample (i.val / (r.rows * r.cols)) (i.val / r.cols % r.rows) (i.val % r.cols)

/-- The same raster with its samples in memory. -/
def force (r : Raster α) : Raster α := ofArray r.bands r.rows r.cols r.samples

/-- A raster without any sample other than zero. -/
def zeros (bands rows cols : Nat) : Raster α := ⟨bands, rows, cols, fun _ _ _ ↦ .whole 0⟩

/-- The raster with a function applied to every sample. -/
def map {β : Type} (f : Sample α → Sample β) (r : Raster α) : Raster β :=
  ⟨r.bands, r.rows, r.cols, fun b y x ↦ f (r.sample b y x)⟩

/-- The first `n` bands. -/
def take (n : Nat) (r : Raster α) : Raster α := { r with bands := min n r.bands }

/-- The pixels of a raster, row by row. -/
def places (r : Raster α) : List (Nat × Nat) :=
  (List.range r.rows).flatMap fun y ↦ (List.range r.cols).map fun x ↦ (y, x)

/-- The part of a raster inside a box, with zero where the box leaves the raster. -/
def window (r : Raster α) (box : PixelBox) : Raster α where
  bands := r.bands
  rows := box.height.toNat
  cols := box.width.toNat
  sample b y x :=
    let row := box.minY + y
    let col := box.minX + x
    if 0 ≤ row ∧ row < r.rows ∧ 0 ≤ col ∧ col < r.cols then r.sample b row.toNat col.toNat
    else .whole 0

/-- Whether some pixel of the last band is positive. -/
def anyPositive [Scalar α] (r : Raster α) : Bool :=
  0 < r.bands && (List.range r.rows).any fun y ↦ (List.range r.cols).any fun x ↦
    (r.sample (r.bands - 1) y x).isPositive

/-- A raster as an array of three dimensions. -/
def toBlock (r : Raster α) : Block α where
  shape := [r.bands, r.rows, r.cols]
  sample
    | [b, y, x] => r.sample b y x
    | _ => .whole 0

end Raster

namespace Block

variable {α : Type}

/-- The raster of a block of three dimensions. -/
def toRaster? (a : Block α) : Option (Raster α) :=
  match a.shape with
  | [bands, rows, cols] => some ⟨bands, rows, cols, fun b y x ↦ a.sample [b, y, x]⟩
  | _ => none

end Block

end QuadMosaic
