import Mathlib.Data.Set.Basic
import QuadMosaic.Proofs.Boxes

/-!
# The lattice of boxes

A crop is the meet of two boxes and a union their join, where one box is below another when its
pixels are.  Main statement: `PixelBox.lattice_of_pixels`.

Boxes are not told by their pixels: all boxes without pixels hold the same ones.  But a box that
holds some pixel is (`eq_of_pixels_eq`), and so is a crop, since there is only one crop without
pixels.  Laws of crops are therefore laws of intersections.  For unions there is no such shortcut,
because a union holds pixels that neither box holds; their laws come from the boxes that contain
them (`contains_union_iff`).
-/

namespace QuadMosaic

namespace PixelBox

variable {a b c : PixelBox}

/-- The pixels of a box. -/
def pixels (b : PixelBox) : Set (Int × Int) := {p | b.Holds p.1 p.2}

theorem isEmpty_iff_pixels : b.isEmpty = true ↔ b.pixels = ∅ := by
  rw [isEmpty_iff_forall, Set.eq_empty_iff_forall_notMem, Prod.forall]
  rfl

/-! ## Boxes within boxes -/

theorem contains_iff_pixels : a.contains b = true ↔ b.pixels ⊆ a.pixels := by
  rw [contains_iff, Set.subset_def, Prod.forall]
  rfl

theorem contains_refl (a : PixelBox) : a.contains a = true := contains_iff_pixels.2 subset_rfl

theorem contains_trans (h : a.contains b = true) (h' : b.contains c = true) :
    a.contains c = true :=
  contains_iff_pixels.2 ((contains_iff_pixels.1 h').trans (contains_iff_pixels.1 h))

theorem contains_of_isEmpty {b other : PixelBox} (h : other.isEmpty = true) :
    b.contains other = true := by
  rw [contains, h, Bool.true_or]

theorem isEmpty_of_contains {b other : PixelBox} (h : b.contains other = true)
    (hb : b.isEmpty = true) : other.isEmpty = true :=
  isEmpty_iff_forall.2 fun x y hxy ↦ isEmpty_iff_forall.1 hb x y (contains_iff.1 h x y hxy)

theorem contains_empty_iff : (empty : PixelBox).contains b = true ↔ b.isEmpty = true :=
  ⟨fun h ↦ isEmpty_of_contains h rfl, contains_of_isEmpty⟩

/-- Boxes with pixels that contain each other have the same corners. -/
theorem eq_of_contains {b other : PixelBox} (hb : b.isEmpty = false)
    (h : b.contains other = true) (h' : other.contains b = true) : b = other := by
  have hother : other.isEmpty = false :=
    Bool.eq_false_iff.2 fun he ↦ Bool.eq_false_iff.1 hb (isEmpty_of_contains h' he)
  simp only [contains, hb, hother, Bool.false_or, Bool.and_eq_true, decide_eq_true_eq] at h h'
  obtain ⟨⟨⟨hleft, htop⟩, hright⟩, hbottom⟩ := h
  obtain ⟨⟨⟨hleft', htop'⟩, hright'⟩, hbottom'⟩ := h'
  cases b
  cases other
  simp only [mk.injEq] at *
  exact ⟨Int.le_antisymm hleft hleft', Int.le_antisymm htop htop', Int.le_antisymm hright' hright,
    Int.le_antisymm hbottom' hbottom⟩

/-- A box with pixels is told by them. -/
theorem eq_of_pixels_eq (ha : a.isEmpty = false) (h : a.pixels = b.pixels) : a = b :=
  eq_of_contains ha (contains_iff_pixels.2 h.symm.subset) (contains_iff_pixels.2 h.subset)

/-- A box with pixels is told by the boxes that contain it. -/
theorem eq_of_bounds (ha : a.isEmpty = false)
    (h : ∀ c : PixelBox, c.contains a = true ↔ c.contains b = true) : a = b :=
  eq_of_contains ha ((h a).1 (contains_refl a)) ((h b).2 (contains_refl b))

/-! ## Crops -/

theorem pixels_crop (a b : PixelBox) : (a.crop b).pixels = a.pixels ∩ b.pixels :=
  Set.ext fun _ ↦ mem_crop

/-- There is one crop without pixels. -/
theorem crop_eq_empty (h : (a.crop b).isEmpty = true) : a.crop b = empty := by
  unfold crop at h ⊢
  simp only at h ⊢
  split at h
  case isTrue hdisjoint => rw [if_pos hdisjoint]
  case isFalse hcommon =>
    rw [isEmpty_iff] at h
    exact absurd h hcommon

/-- A crop is told by its pixels among all crops. -/
theorem crop_eq_crop_of_pixels {d : PixelBox} (h : a.pixels ∩ b.pixels = c.pixels ∩ d.pixels) :
    a.crop b = c.crop d := by
  rw [← pixels_crop, ← pixels_crop] at h
  cases hempty : (a.crop b).isEmpty with
  | false => exact eq_of_pixels_eq hempty h
  | true =>
    have hempty' : (c.crop d).isEmpty = true := by
      rwa [isEmpty_iff_pixels, h, ← isEmpty_iff_pixels] at hempty
    rw [crop_eq_empty hempty, crop_eq_empty hempty']

theorem crop_comm (a b : PixelBox) : a.crop b = b.crop a :=
  crop_eq_crop_of_pixels (Set.inter_comm _ _)

theorem crop_assoc (a b c : PixelBox) : (a.crop b).crop c = a.crop (b.crop c) := by
  refine crop_eq_crop_of_pixels ?_
  rw [pixels_crop, pixels_crop, Set.inter_assoc]

/-- Cropping to a box that contains it leaves a box with pixels as it is. -/
theorem crop_eq_left (ha : a.isEmpty = false) (h : b.contains a = true) : a.crop b = a := by
  refine (eq_of_pixels_eq ha ?_).symm
  rw [pixels_crop, Set.inter_eq_left.2 (contains_iff_pixels.1 h)]

/-! ## Unions -/

theorem union_of_left (ha : a.isEmpty = true) : a.union b = b := if_pos ha

theorem contains_union_left (a b : PixelBox) : (a.union b).contains a = true :=
  contains_iff.2 fun _ _ ↦ mem_union_left

theorem contains_union_right (a b : PixelBox) : (a.union b).contains b = true :=
  contains_iff.2 fun _ _ ↦ mem_union_right

/-- A box that contains two boxes contains their union. -/
theorem contains_union {b other outer : PixelBox} (hb : outer.contains b = true)
    (hother : outer.contains other = true) : outer.contains (b.union other) = true := by
  unfold union
  split
  case isTrue => exact hother
  case isFalse hne =>
    split
    case isTrue => exact hb
    case isFalse hne' =>
      simp only [contains, hne, hne', Bool.false_or, Bool.and_eq_true, decide_eq_true_eq,
        Bool.or_eq_true] at hb hother ⊢
      omega

/-- The boxes that contain a union are those that contain both its boxes. -/
theorem contains_union_iff :
    c.contains (a.union b) = true ↔ c.contains a = true ∧ c.contains b = true :=
  ⟨fun h ↦
    ⟨contains_trans h (contains_union_left a b), contains_trans h (contains_union_right a b)⟩,
    fun h ↦ contains_union h.1 h.2⟩

theorem isEmpty_union : (a.union b).isEmpty = true ↔ a.isEmpty = true ∧ b.isEmpty = true := by
  simp only [← contains_empty_iff, contains_union_iff]

/-- The order of two boxes matters to their union when both are without pixels: the second is the
union then. -/
theorem union_comm_iff :
    a.union b = b.union a ↔ (a.isEmpty = true → b.isEmpty = true → a = b) := by
  cases hempty : (a.union b).isEmpty with
  | true =>
    obtain ⟨ha, hb⟩ := isEmpty_union.1 hempty
    rw [union_of_left ha, union_of_left hb, eq_comm]
    exact ⟨fun h _ _ ↦ h, fun h ↦ h ha hb⟩
  | false =>
    refine iff_of_true (eq_of_bounds hempty fun c ↦ ?_) fun ha hb ↦ ?_
    · rw [contains_union_iff, contains_union_iff, and_comm]
    · exact absurd (isEmpty_union.2 ⟨ha, hb⟩) (by rw [hempty]; decide)

theorem union_assoc (a b c : PixelBox) : (a.union b).union c = a.union (b.union c) := by
  cases hempty : ((a.union b).union c).isEmpty with
  | true =>
    obtain ⟨hab, -⟩ := isEmpty_union.1 hempty
    obtain ⟨ha, hb⟩ := isEmpty_union.1 hab
    rw [union_of_left hab, union_of_left ha, union_of_left hb]
  | false =>
    refine eq_of_bounds hempty fun d ↦ ?_
    simp only [contains_union_iff, and_assoc]

/-! ## The lattice -/

/-- Boxes as sets of pixels, whatever the order of their corners.

A box contains another when all pixels of the other are its own, and a box without pixels is empty.
The crop is the meet: it holds the common pixels, and two boxes without common pixels have one and
the same crop.  The union is the join: it contains both boxes, and every box that contains both
contains it.  Both may be grouped at will, and the order does not matter, but to the union of two
boxes without pixels, which is the second one.  A box with pixels is its own crop to any union that
it is part of. -/
theorem lattice_of_pixels (a b c : PixelBox) :
    (a.isEmpty = true ↔ a.pixels = ∅) ∧
      (a.contains b = true ↔ b.pixels ⊆ a.pixels) ∧
      (a.crop b).pixels = a.pixels ∩ b.pixels ∧
      ((a.crop b).isEmpty = true → a.crop b = ⟨0, 0, 0, 0⟩) ∧
      a.crop b = b.crop a ∧
      (a.crop b).crop c = a.crop (b.crop c) ∧
      (a.union b).contains a = true ∧ (a.union b).contains b = true ∧
      (c.contains (a.union b) = true ↔ c.contains a = true ∧ c.contains b = true) ∧
      (a.union b = b.union a ↔ (a.isEmpty = true → b.isEmpty = true → a = b)) ∧
      (a.union b).union c = a.union (b.union c) ∧
      (a.isEmpty = false → a.crop (a.union b) = a) :=
  ⟨isEmpty_iff_pixels, contains_iff_pixels, pixels_crop a b, crop_eq_empty, crop_comm a b,
    crop_assoc a b c, contains_union_left a b, contains_union_right a b, contains_union_iff,
    union_comm_iff, union_assoc a b c, fun ha ↦ crop_eq_left ha (contains_union_left a b)⟩

/-- A box whose right edge lies left of its left edge has no pixels, and a union skips it. -/
theorem lattice_of_pixels_of_inverted :
    (⟨5, 1, 2, 9⟩ : PixelBox).isEmpty = true ∧ (⟨0, 0, 4, 4⟩ : PixelBox).isEmpty = false ∧
      (⟨0, 0, 4, 4⟩ : PixelBox).crop ⟨5, 1, 2, 9⟩ = ⟨0, 0, 0, 0⟩ ∧
      (⟨0, 0, 4, 4⟩ : PixelBox).crop ((⟨0, 0, 4, 4⟩ : PixelBox).union ⟨5, 1, 2, 9⟩) =
        ⟨0, 0, 4, 4⟩ := by
  obtain ⟨-, -, -, hcrop, -, -, -, -, -, -, -, habsorb⟩ :=
    lattice_of_pixels ⟨0, 0, 4, 4⟩ ⟨5, 1, 2, 9⟩ empty
  exact ⟨by decide, by decide, hcrop (by decide), habsorb (by decide)⟩

end PixelBox

end QuadMosaic
