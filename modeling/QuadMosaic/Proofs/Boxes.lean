import QuadMosaic.Grid.PixelBox

/-!
# Boxes as sets of pixels

The operations on boxes compare corners; what they mean is said here in terms of the pixels that a
box holds.  The lemmas on corners, for boxes that hold some pixel, are what arithmetic needs.
-/

namespace QuadMosaic

namespace PixelBox

theorem width_eq (b : PixelBox) : b.width = max 0 (b.maxX - b.minX) := rfl

theorem height_eq (b : PixelBox) : b.height = max 0 (b.maxY - b.minY) := rfl

/-- A box that holds some pixel has its corners in order. -/
theorem Holds.not_isEmpty {b : PixelBox} {x y : Int} (h : b.Holds x y) : b.isEmpty = false := by
  rw [not_isEmpty_iff]
  unfold Holds at h
  omega

theorem exists_holds_iff {b : PixelBox} : (∃ x y, b.Holds x y) ↔ b.isEmpty = false := by
  constructor
  · rintro ⟨x, y, h⟩
    exact h.not_isEmpty
  · intro h
    obtain ⟨hx, hy⟩ := not_isEmpty_iff.1 h
    exact ⟨b.minX, b.minY, by unfold Holds; omega⟩

/-- Two boxes share a pixel exactly when the crop of one to the other is not empty. -/
theorem isEmpty_crop_iff {b other : PixelBox} :
    (b.crop other).isEmpty = true ↔ ∀ x y, ¬ (b.Holds x y ∧ other.Holds x y) := by
  simp only [isEmpty_iff_forall, mem_crop]

/-- The corners of a crop that holds some pixel. -/
theorem crop_eq_of_not_isEmpty {b other : PixelBox} (h : (b.crop other).isEmpty = false) :
    b.crop other = ⟨max b.minX other.minX, max b.minY other.minY, min b.maxX other.maxX,
      min b.maxY other.maxY⟩ := by
  unfold crop at h ⊢
  simp only at h ⊢
  split at h
  · exact absurd h (by decide)
  · rw [if_neg ‹_›]

/-- One box contains another exactly when it holds all pixels of it. -/
theorem contains_iff {b other : PixelBox} :
    b.contains other = true ↔ ∀ x y, other.Holds x y → b.Holds x y := by
  simp only [contains, Bool.or_eq_true, Bool.and_eq_true, decide_eq_true_eq]
  constructor
  · rintro (h | h) x y hxy
    · exact absurd hxy (isEmpty_iff_forall.1 h x y)
    · unfold Holds at hxy ⊢
      omega
  · intro h
    by_cases he : other.isEmpty = true
    · exact .inl he
    · right
      obtain ⟨hx, hy⟩ := not_isEmpty_iff.1 (Bool.eq_false_iff.2 he)
      -- the corners of `b` lie beyond the two opposite corner pixels of `other`
      have hleast := h other.minX other.minY (by unfold Holds; omega)
      have hgreatest := h (other.maxX - 1) (other.maxY - 1) (by unfold Holds; omega)
      unfold Holds at hleast hgreatest
      omega

/-- The corners of a box lie in another box. -/
structure Inside (b outer : PixelBox) : Prop where
  left : outer.minX ≤ b.minX
  top : outer.minY ≤ b.minY
  right : b.maxX ≤ outer.maxX
  bottom : b.maxY ≤ outer.maxY
  cols : b.minX < b.maxX
  rows : b.minY < b.maxY

/-- The common part of two boxes lies in both. -/
theorem inside_crop {b other : PixelBox} (h : (b.crop other).isEmpty = false) :
    (b.crop other).Inside b ∧ (b.crop other).Inside other := by
  obtain ⟨hx, hy⟩ := not_isEmpty_iff.1 h
  rw [crop_eq_of_not_isEmpty h] at hx hy ⊢
  constructor <;> constructor <;> simp only at hx hy ⊢ <;> omega

/-- A box has as many rows and columns as an array. -/
structure IsSized (b : PixelBox) (rows cols : Nat) : Prop where
  cols : b.maxX = b.minX + cols
  rows : b.maxY = b.minY + rows

theorem isSized_of_not_isEmpty {b : PixelBox} (h : b.isEmpty = false) :
    b.IsSized b.height.toNat b.width.toNat := by
  obtain ⟨hx, hy⟩ := not_isEmpty_iff.1 h
  constructor
  · rw [width_eq]
    omega
  · rw [height_eq]
    omega

end PixelBox

end QuadMosaic
