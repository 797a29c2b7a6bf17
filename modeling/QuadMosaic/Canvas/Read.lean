import QuadMosaic.Canvas.Basic

/-!
# Reading a canvas

A reading starts from an empty sheet as large as its window.  Every view that shares pixels with the
window is cut to the shared part, and the part is laid onto the sheet where it belongs, one view
after the other.  In draft mode the pixels of a part that are not transparent replace what lies
there.  Otherwise the colours are summed up weighted by transparency, to be divided by the sum of
the weights at the end, and the transparency is the greatest one.
-/

namespace QuadMosaic

/-- Where a bound of a slice lies on an axis of some length: counted from the end when it is
negative, and never beyond the ends. -/
def sliceBound (length : Nat) (bound : Int) : Nat :=
  if bound < 0 then (length + bound).toNat else min bound.toNat length

/-- Neighbouring rows and columns of an array, the last ones excluded. -/
structure Slice where
  top : Nat
  bottom : Nat
  left : Nat
  right : Nat
  deriving DecidableEq, Repr

namespace Slice

/-- The rows and columns of an array of some size that a box names. -/
def ofBox (rows cols : Nat) (b : PixelBox) : Slice where
  top := sliceBound rows b.minY
  bottom := sliceBound rows b.maxY
  left := sliceBound cols b.minX
  right := sliceBound cols b.maxX

/-- The number of rows. -/
def height (s : Slice) : Nat := s.bottom - s.top

/-- The number of columns. -/
def width (s : Slice) : Nat := s.right - s.left

/-- Whether a place of the array is in a slice. -/
def holds (s : Slice) (y x : Nat) : Bool := s.top ≤ y && y < s.bottom && s.left ≤ x && x < s.right

end Slice

/-- The part of a raster in a slice. -/
def Raster.part {α : Type} (r : Raster α) (s : Slice) : Raster α :=
  ⟨r.bands, s.height, s.width, fun b y x ↦ r.sample b (s.top + y) (s.left + x)⟩

/-- What is gathered at one pixel. -/
structure Cell (α : Type) where
  /-- The samples, by band. -/
  sample : Nat → Sample α
  /-- The sum of the weights of the views. -/
  weight : α

namespace Cell

variable {α : Type} [Scalar α]

open Scalar

/-- Nothing gathered yet. -/
def blank : Cell α := ⟨fun _ ↦ .whole 0, zero⟩

/-- The cell under a pixel that replaces it unless it is transparent. -/
def cover (bands : Nat) (cell : Cell α) (source : Nat → Sample α) : Cell α :=
  if (source (bands - 1)).isPositive then { cell with sample := source } else cell

/-- The share of full intensity that the transparency of a pixel is. -/
def weightOf (full : α) (bands : Nat) (source : Nat → Sample α) : α :=
  (source (bands - 1)).toScalar / full

/-- The cell with a pixel added to it by its weight. -/
def mix (full : α) (bands : Nat) (cell : Cell α) (source : Nat → Sample α) : Cell α where
  sample b :=
    if b + 1 < bands then
      .real ((cell.sample b).toScalar + (source b).toScalar * weightOf full bands source)
    else (cell.sample b).join (source b)
  weight := cell.weight + weightOf full bands source

/-- The cell under a pixel, for a channel type. -/
def lay (draft : Bool) (channel : ChannelType) (bands : Nat) (cell : Cell α)
    (source : Nat → Sample α) : Cell α :=
  if draft then cell.cover bands source else cell.mix channel.full bands source

/-- The mean of the samples gathered in a band; zero when no view has a weight. -/
def mean (cell : Cell α) (band : Nat) : α :=
  if lt zero cell.weight then (cell.sample band).toScalar / cell.weight else zero

/-- The sample of a band in a channel type, once all views are gathered. -/
def settle (draft : Bool) (channel : ChannelType) (bands : Nat) (cell : Cell α) (band : Nat) :
    Sample α :=
  if !draft && band + 1 < bands then channel.cast (cell.mean band)
  else (cell.sample band).cast channel

end Cell

/-- An array of cells. -/
structure Sheet (α : Type) where
  bands : Nat
  rows : Nat
  cols : Nat
  /-- The cell at a row and a column. -/
  cell : Nat → Nat → Cell α

namespace Sheet

variable {α : Type} [Scalar α]

/-- A sheet on which nothing lies. -/
def blank (bands rows cols : Nat) : Sheet α := ⟨bands, rows, cols, fun _ _ ↦ Cell.blank⟩

/-- The sheet with the pixels of a raster laid onto a slice of it. -/
def update (draft : Bool) (channel : ChannelType) (sheet : Sheet α) (target : Slice)
    (part : Raster α) : Sheet α :=
  { sheet with
    cell := fun y x ↦
      if target.holds y x then
        (sheet.cell y x).lay draft channel part.bands
          fun b ↦ part.sample b (y - target.top) (x - target.left)
      else sheet.cell y x }

/-- The sheet of a window with one more view on it; a failure when the view has no band that could
be its transparency, or when the parts of the view and of the sheet differ in size. -/
def lay (draft : Bool) (channel : ChannelType) (window : PixelBox) (sheet : Sheet α)
    (v : View α) : Except Fault (Sheet α) :=
  let overlap := v.box.crop window
  let source := Slice.ofBox v.pixels.rows v.pixels.cols (overlap.shift (-v.box.minX) (-v.box.minY))
  let target := Slice.ofBox sheet.rows sheet.cols (overlap.shift (-window.minX) (-window.minY))
  let part := (v.pixels.part source).map Sample.widened
  if part.bands = 0 then .error (.value .noSuchIndex)
  else if part.bands ≠ sheet.bands ∨ part.rows ≠ target.height ∨ part.cols ≠ target.width then
    .error (.value .badValue)
  else .ok (sheet.update draft channel target part)

/-- The samples of a sheet in a channel type, once all views are gathered. -/
def settle (draft : Bool) (channel : ChannelType) (sheet : Sheet α) : Raster α :=
  ⟨sheet.bands, sheet.rows, sheet.cols,
    fun b y x ↦ (sheet.cell y x).settle draft channel sheet.bands b⟩

end Sheet

/-- The view with its place counted in columns and rows of pixels; a failure when it lies between
pixels. -/
def View.placed {α κ : Type} [Coordinate κ] (v : View α κ) : Except Fault (View α) := do
  let box ← v.box.indices
  pure ⟨v.pixels, box, v.label⟩

namespace Canvas

variable {α : Type} [Scalar α]

/-- The sheet of a window with one more view on it, if the two share pixels; `place` is the window
counted in columns and rows of pixels. -/
def layInto {κ : Type} [Coordinate κ] (c : Canvas α κ) (window : PixelBox κ) (place : PixelBox)
    (sheet : Sheet α) (v : View α κ) : Except Fault (Sheet α) :=
  if (v.box.crop window).isEmpty then .ok sheet
  else do
    let placed ← v.placed
    sheet.lay c.draft c.channel place placed

/-- The pixels of all views inside a window, which is `place` counted in columns and rows. -/
def gather {κ : Type} [Coordinate κ] (c : Canvas α κ) (window : PixelBox κ) (place : PixelBox) :
    Except Fault (Raster α) := do
  let sheet ← c.views.foldlM (c.layInto window place)
    (Sheet.blank c.bands.toNat place.height.toNat place.width.toNat)
  pure (sheet.settle c.draft c.channel)

/-- The pixels of a canvas inside a window, which may be of any size. -/
def read (c : Canvas α) (window : PixelBox) : Except Fault (Raster α) :=
  if c.extent.isNone then .error (.canvas .readBeforePrepare)
  else if c.bands < 0 then .error (.canvas (.shape .negativeLength))
  else c.gather window window

/-- A coordinate as a length of an array; a failure when it is not of a kind that counts, or beyond
the lengths that can be asked for. -/
def lengthOf {κ : Type} [Coordinate κ] (n : κ) : Except Fault Int :=
  match Coordinate.index? n with
  | none => .error (.value .badKind)
  | some n =>
    if n < -Raster.addressLimit ∨ Raster.addressLimit ≤ n then
      .error (.canvas (.shape .lengthOutOfRange))
    else .ok n

/-- A failure when there can be no array with the given lengths. -/
def checkShape (lengths : List Int) : Except Fault Unit :=
  match Raster.sizeFault? 8 lengths with
  | some cause => .error (.canvas (.shape cause))
  | none => .ok ()

/-- The pixels of a canvas with coordinates of any kind inside a window.  There have to be an array
of the samples and one of the weights of its pixels, and a window that has pixels has to lie on
whole ones. -/
def readAny {κ : Type} [Coordinate κ] (c : Canvas α κ) (window : PixelBox κ) :
    Except Fault (Raster α) := do
  if c.extent.isNone then throw (.canvas .readBeforePrepare)
  let bands ← lengthOf c.bands
  let rows ← lengthOf window.height
  let cols ← lengthOf window.width
  checkShape [bands, rows, cols]
  checkShape [rows, cols]
  let place ← if window.isEmpty then pure (PixelBox.ofSize 0 0 cols rows) else window.indices
  c.gather window place

end Canvas

end QuadMosaic
