import QuadMosaic.Grid.Coordinate

/-!
# Boxes of pixels

A box is a half-open rectangle of pixel coordinates, which are integers unless another kind is
named.  Boxes are read as the set of pixels they hold; the operations below are the usual ones on
those sets, as far as boxes can express them.

Main statements: `mem_crop`, the pixels of a crop are the common ones, and `mem_union_left`,
`mem_union_right`, a union keeps the pixels of both.
-/

namespace QuadMosaic

/-- The pixels with `minX ≤ x < maxX` and `minY ≤ y < maxY`. -/
structure PixelBox (κ : Type := Int) where
  minX : κ
  minY : κ
  maxX : κ
  maxY : κ
  deriving DecidableEq, Repr, Inhabited

namespace PixelBox

section

variable {κ : Type} [Coordinate κ]

/-- The box without pixels at the origin. -/
def empty : PixelBox κ := ⟨0, 0, 0, 0⟩

/-- The box of a given size with its least corner at `(x, y)`. -/
def ofSize (x y width height : κ) : PixelBox κ := ⟨x, y, x + width, y + height⟩

/-- The number of columns. -/
def width (b : PixelBox κ) : κ := max 0 (b.maxX - b.minX)

/-- The number of rows. -/
def height (b : PixelBox κ) : κ := max 0 (b.maxY - b.minY)

/-- Whether a box has no pixels. -/
def isEmpty (b : PixelBox κ) : Bool := decide (b.width ≤ 0 ∨ b.height ≤ 0)

/-- Whether `b` holds every pixel of `other`. -/
def contains (b other : PixelBox κ) : Bool :=
  other.isEmpty ||
    (b.minX ≤ other.minX && b.minY ≤ other.minY && other.maxX ≤ b.maxX && other.maxY ≤ b.maxY)

/-- The common pixels of two boxes. -/
def crop (b other : PixelBox κ) : PixelBox κ :=
  let minX := max b.minX other.minX
  let minY := max b.minY other.minY
  let maxX := min b.maxX other.maxX
  let maxY := min b.maxY other.maxY
  if maxX ≤ minX ∨ maxY ≤ minY then empty else ⟨minX, minY, maxX, maxY⟩

/-- The least box that holds the pixels of two boxes. -/
def union (b other : PixelBox κ) : PixelBox κ :=
  if b.isEmpty then other
  else if other.isEmpty then b
  else ⟨min b.minX other.minX, min b.minY other.minY, max b.maxX other.maxX, max b.maxY other.maxY⟩

/-- The box moved by `(dx, dy)`. -/
def shift (b : PixelBox κ) (dx dy : κ) : PixelBox κ :=
  ⟨b.minX + dx, b.minY + dy, b.maxX + dx, b.maxY + dy⟩

/-- The box with its corners counted as columns and rows of pixels; a failure when one of them is
not of a kind that counts. -/
def indices (b : PixelBox κ) : Except Fault PixelBox :=
  match Coordinate.index? b.minX, Coordinate.index? b.minY, Coordinate.index? b.maxX,
    Coordinate.index? b.maxY with
  | some minX, some minY, some maxX, some maxY => .ok ⟨minX, minY, maxX, maxY⟩
  | _, _, _, _ => .error (.value .badKind)

/-- The corners of a box as data. -/
def corners (b : PixelBox κ) : Json :=
  .arr ([b.minX, b.minY, b.maxX, b.maxY].map Coordinate.toJson)

/-- The corner and the size of a box as data. -/
def toJson (b : PixelBox κ) : Json :=
  .obj [("x", Coordinate.toJson b.minX), ("y", Coordinate.toJson b.minY),
    ("width", Coordinate.toJson b.width), ("height", Coordinate.toJson b.height)]

end

/-- The box with its corners as coordinates of another kind. -/
def ofInts {κ : Type} [Coordinate κ] (b : PixelBox) : PixelBox κ :=
  ⟨Coordinate.ofInt b.minX, Coordinate.ofInt b.minY, Coordinate.ofInt b.maxX,
    Coordinate.ofInt b.maxY⟩

/-- A pixel lies in a box. -/
def Holds (b : PixelBox) (x y : Int) : Prop :=
  b.minX ≤ x ∧ x < b.maxX ∧ b.minY ≤ y ∧ y < b.maxY

instance (b : PixelBox) (x y : Int) : Decidable (b.Holds x y) := by
  unfold Holds; infer_instance

/-- The integer box around real bounds, each first moved inwards by `slack`. -/
def around {α : Type} [Scalar α] (slack minX minY maxX maxY : α) : Except Fault PixelBox := do
  let left ← Scalar.toInt (Scalar.floor (minX + slack))
  let top ← Scalar.toInt (Scalar.floor (minY + slack))
  let right ← Scalar.toInt (Scalar.ceil (maxX - slack))
  let bottom ← Scalar.toInt (Scalar.ceil (maxY - slack))
  pure ⟨left, top, right, bottom⟩

/-- The slack that hides the rounding of coordinates: a millionth of a pixel. -/
def defaultSlack {α : Type} [Scalar α] : α := Scalar.ofInt 1 / Scalar.ofInt 1000000

theorem isEmpty_iff {b : PixelBox} : b.isEmpty = true ↔ b.maxX ≤ b.minX ∨ b.maxY ≤ b.minY := by
  rw [isEmpty, decide_eq_true_eq]
  unfold width height
  omega

theorem not_isEmpty_iff {b : PixelBox} : b.isEmpty = false ↔ b.minX < b.maxX ∧ b.minY < b.maxY := by
  rw [← Bool.not_eq_true, isEmpty_iff]
  omega

/-- A box is empty exactly when it holds no pixel. -/
theorem isEmpty_iff_forall {b : PixelBox} : b.isEmpty = true ↔ ∀ x y, ¬ b.Holds x y := by
  rw [isEmpty_iff]
  constructor
  · intro h x y hxy
    unfold Holds at hxy
    omega
  · intro h
    have := h b.minX b.minY
    unfold Holds at this
    omega

/-- The pixels of a crop are the common ones. -/
theorem mem_crop {b other : PixelBox} {x y : Int} :
    (b.crop other).Holds x y ↔ b.Holds x y ∧ other.Holds x y := by
  unfold crop
  simp only
  split <;> simp only [Holds, empty] <;> omega

/-- A union keeps the pixels of its first box. -/
theorem mem_union_left {b other : PixelBox} {x y : Int} (h : b.Holds x y) :
    (b.union other).Holds x y := by
  have hb : ¬ b.isEmpty = true := fun he ↦ isEmpty_iff_forall.1 he x y h
  unfold union
  rw [if_neg hb]
  split
  · exact h
  · unfold Holds at h ⊢
    simp only
    omega

/-- A union keeps the pixels of its second box. -/
theorem mem_union_right {b other : PixelBox} {x y : Int} (h : other.Holds x y) :
    (b.union other).Holds x y := by
  have ho : ¬ other.isEmpty = true := fun he ↦ isEmpty_iff_forall.1 he x y h
  unfold union
  rw [if_neg ho]
  split
  · exact h
  · unfold Holds at h ⊢
    simp only
    omega

end PixelBox

end QuadMosaic
