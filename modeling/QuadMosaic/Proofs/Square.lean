import Mathlib
import QuadMosaic.Proofs.Globe

/-!
# The square of a pyramid divided evenly

A pyramid with a power of two of square pixels on each side is divided evenly by every step that the
grid around a box in it can have.  So the square around the box stays in the pyramid, and its side,
one step or two, divides the pyramid as well.

The side is one step exactly when some cell of the grid holds the box.  There is only one cell to
ask, that of the least corner of the box (`PixelBox.fitsCell_iff`).
-/

namespace QuadMosaic

namespace PixelBox

/-- Some cell of the grid of a step holds a box. -/
def FitsCell (b : PixelBox) (step : Int) : Prop :=
  ∃ i j : Int, ∀ x y, b.Holds x y → (ofSize (i * step) (j * step) step step).Holds x y

/-- The cell that holds a box is the one that the least corner of the box lies in. -/
theorem fitsCell_iff {b : PixelBox} {step : Int} (hb : b.isEmpty = false) (hstep : 0 < step) :
    b.FitsCell step ↔ (b.cellOf step).contains b = true := by
  have hcell (n i : Int) (h : i * step ≤ n) (h' : n < i * step + step) : n / step = i := by
    apply Int.le_antisymm
    · apply Int.le_of_lt_add_one
      rw [Int.ediv_lt_iff_lt_mul hstep, Int.add_mul, Int.one_mul]
      exact h'
    · exact (Int.le_ediv_iff_mul_le hstep).2 h
  rw [contains_iff, cellOf_eq b hstep]
  constructor
  · rintro ⟨i, j, h⟩
    obtain ⟨hx, hy⟩ := not_isEmpty_iff.1 hb
    obtain ⟨hleft, hright, htop, hbottom⟩ := h b.minX b.minY (by unfold Holds; omega)
    rw [hcell b.minX i hleft hright, hcell b.minY j htop hbottom]
    exact h
  · intro h
    exact ⟨_, _, h⟩

namespace InPyramid

variable {b : PixelBox} {k : Nat}

/-- The step of the grid is the least power of two that holds the box, as the pyramid is one. -/
theorem cellSide_isNextPower {columns : Int} (h : b.InPyramid columns (2 ^ k)) :
    IsNextPower (max b.width b.height) (b.cellSide (2 ^ k)) := by
  have hnext := isNextPower_nextPowerOfTwo (max b.width b.height)
  have hle : max b.width b.height ≤ 2 ^ k := by
    obtain ⟨hx, hy, hx', hy', hcolumns, htotal⟩ := h
    rw [width_eq, height_eq]
    omega
  rw [cellSide_eq, min_eq_left (hnext.least k hle)]
  exact hnext

/-- The side of the square is a step when a cell holds the box and two steps when none does; it
divides the pyramid. -/
theorem gridSquare_side (h : b.InPyramid (2 ^ k) (2 ^ k)) (hb : b.isEmpty = false) :
    ∃ j ≤ k, (b.gridSquare (2 ^ k) (2 ^ k) (2 ^ k)).maxX -
        (b.gridSquare (2 ^ k) (2 ^ k) (2 ^ k)).minX = 2 ^ j ∧
      (b.FitsCell (b.cellSide (2 ^ k)) → 2 ^ j = b.cellSide (2 ^ k)) ∧
      (¬ b.FitsCell (b.cellSide (2 ^ k)) → 2 ^ j = 2 * b.cellSide (2 ^ k)) := by
  obtain ⟨i, hik, hi⟩ := exists_cellSide_eq_two_pow b k
  obtain ⟨hside, -, -⟩ := h.cellSide_bounds
  have hwidth : (b.cellOf (b.cellSide (2 ^ k))).maxX - (b.cellOf (b.cellSide (2 ^ k))).minX =
      b.cellSide (2 ^ k) := by
    rw [cellOf_eq b hside]
    exact add_sub_cancel_left _ _
  rw [fitsCell_iff hb hside]
  rcases gridSquare_cases b (2 ^ k) (2 ^ k) with ⟨hholds, hsquare⟩ | ⟨hholds, hsquare⟩
  · rw [hsquare, hwidth]
    exact ⟨i, hik, hi, fun _ ↦ hi.symm, fun hnot ↦ absurd hholds hnot⟩
  · -- the one cell as large as the pyramid would hold the box, so the step is smaller
    have hlt : i < k := by
      apply lt_of_le_of_ne hik
      rintro rfl
      have := h.contains_of_cellSide_eq hb hi
      rw [hholds] at this
      cases this
    have hdouble : (2 : Int) ^ (i + 1) = 2 * b.cellSide (2 ^ k) := by
      rw [hi, pow_succ, mul_comm]
    rw [hsquare, doubled_width hwidth]
    refine ⟨i + 1, hlt, hdouble.symm, ?_, fun _ ↦ hdouble⟩
    intro hcontains
    rw [hholds] at hcontains
    cases hcontains

end InPyramid

end PixelBox

namespace PyramidBounds

/-- The square around a box in a pyramid of square pixels whose size is a power of two.  With `dim`
the least power of two that holds the box, it is a square of the grid of step `dim` in the pyramid
and holds the box; its side is a power of two that divides the pyramid, and is `dim` exactly when
some cell of the grid holds the box, twice `dim` otherwise. -/
theorem square_of_even_pyramid {box : PixelBox} {r : Resolution} {k : Nat}
    (htotal : r.total = 2 ^ k) (ha : r.aspectRatio = 1) (hbox : ∃ x y, box.Holds x y)
    (hin : ∀ x y, box.Holds x y → (⟨0, 0, r.total, r.total⟩ : PixelBox).Holds x y) :
    ∃ square dim side, alignSquare box r = .ok square ∧
      IsNextPower (max box.width box.height) dim ∧
      square.Inside ⟨0, 0, r.total, r.total⟩ ∧ (∀ x y, box.Holds x y → square.Holds x y) ∧
      square.width = side ∧ square.height = side ∧ (∃ j : Nat, side = 2 ^ j) ∧ side ∣ r.total ∧
      dim ∣ square.minX ∧ dim ∣ square.minY ∧ dim ∣ square.maxX ∧ dim ∣ square.maxY ∧
      (side = dim ↔ box.FitsCell dim) ∧ (side ≠ dim → side = 2 * dim) := by
  have hempty := PixelBox.exists_holds_iff.1 hbox
  obtain ⟨hx, hy⟩ := PixelBox.not_isEmpty_iff.1 hempty
  have hpyramid : box.InPyramid (2 ^ k) (2 ^ k) := by
    have hleast := hin box.minX box.minY (by unfold PixelBox.Holds; omega)
    have hgreatest := hin (box.maxX - 1) (box.maxY - 1) (by unfold PixelBox.Holds; omega)
    rw [htotal] at hleast hgreatest
    simp only [PixelBox.Holds] at hleast hgreatest
    constructor <;> omega
  obtain ⟨hside, -, -⟩ := hpyramid.cellSide_bounds
  obtain ⟨j, hjk, hwidth, hfits, hdoubled⟩ := hpyramid.gridSquare_side hempty
  have hgrid := hpyramid.onGrid_gridSquare
  have hsquare := hgrid.square
  have hpos : (0 : Int) < 2 ^ j := Int.pow_pos (by decide)
  have halign : alignSquare box r = .ok (box.gridSquare (2 ^ k) (2 ^ k) (2 ^ k)) := by
    rw [alignSquare_eq_ok (by omega) (by rwa [htotal]), ha, Int.fdiv_one, htotal]
  refine ⟨_, box.cellSide (2 ^ k), 2 ^ j, halign, hpyramid.cellSide_isNextPower, ?inside,
    fun x y hxy ↦ hpyramid.gridSquare_holds hxy, ?width, ?height, ⟨j, rfl⟩, ?divides, hgrid.minX,
    hgrid.minY, hgrid.maxX, hgrid.maxY, ?one, ?two⟩
  case inside =>
    rw [htotal]
    exact hpyramid.gridSquare_inside_of_power hempty
  case width =>
    rw [PixelBox.width_eq]
    omega
  case height =>
    rw [PixelBox.height_eq]
    omega
  case divides =>
    rw [htotal]
    exact pow_dvd_pow 2 hjk
  case one =>
    constructor
    · intro heq
      by_contra hnot
      have := hdoubled hnot
      omega
    · exact hfits
  case two =>
    intro hne
    exact hdoubled fun hcell ↦ hne (hfits hcell)

/-- A box of two columns and rows across a line of its grid takes four cells. -/
theorem square_of_even_pyramid_across_line :
    ∃ square, alignSquare (⟨3, 3, 5, 5⟩ : PixelBox) ⟨16, 1⟩ = .ok square ∧
      square.Inside ⟨0, 0, 16, 16⟩ ∧ square.Holds 3 3 ∧ square.Holds 4 4 ∧ square.width = 4 := by
  obtain ⟨square, dim, side, halign, hdim, hinside, hholds, hwidth, -, -, -, -, -, -, -, hone,
    htwo⟩ := square_of_even_pyramid (r := ⟨16, 1⟩) (k := 4) (by decide) rfl
    (show ∃ x y, (⟨3, 3, 5, 5⟩ : PixelBox).Holds x y from ⟨3, 3, by decide⟩) fun x y hxy ↦ by
      simp only [PixelBox.Holds] at hxy ⊢
      omega
  obtain rfl : dim = 2 := hdim.unique (isNextPower_nextPowerOfTwo 2)
  have hnot : ¬ (⟨3, 3, 5, 5⟩ : PixelBox).FitsCell 2 := by
    rw [PixelBox.fitsCell_iff rfl (by decide)]
    decide
  exact ⟨square, halign, hinside, hholds 3 3 (by decide), hholds 4 4 (by decide),
    hwidth.trans (htwo fun h ↦ hnot (hone.1 h))⟩

end PyramidBounds

end QuadMosaic
