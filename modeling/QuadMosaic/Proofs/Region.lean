import Mathlib
import QuadMosaic.Proofs.Boxes
import QuadMosaic.Proofs.Double
import QuadMosaic.Proofs.Steps
import QuadMosaic.Pyramid.Bounds

/-!
# The square of a region

The profiles that show a region cut the pyramid down to a square of the grid whose step is a power
of two, at most the whole pyramid.  One cell of that grid holds the least corner of the data; when
it does not hold all of them, the cell is doubled in both directions.

The argument is about one axis at a time: the data are no longer than a step, so they end before the
cell after the one in which they begin, and where doubling goes down instead of up they end with
the pyramid.
-/

namespace QuadMosaic

/-- The least power of two that is at least `n`. -/
structure IsNextPower (n p : Int) : Prop where
  power : ∃ k : Nat, p = 2 ^ k
  le : n ≤ p
  least : ∀ k : Nat, n ≤ 2 ^ k → p ≤ 2 ^ k

theorem isNextPower_nextPowerOfTwo (n : Int) : IsNextPower n (nextPowerOfTwo n) := by
  unfold nextPowerOfTwo
  split
  case isTrue h => exact ⟨⟨0, rfl⟩, h, fun k _ ↦ Int.add_one_le_of_lt (Int.pow_pos (by decide))⟩
  case isFalse h =>
    -- `n - 1` has as many bits as the exponent says
    obtain ⟨m, hm⟩ : ∃ m : Nat, n = m + 1 := ⟨(n - 1).toNat, by omega⟩
    have hm₀ : m ≠ 0 := by omega
    have htoNat : (n - 1).toNat = m := by omega
    have hcast (k : Nat) : ((Nat.pow 2 k : Nat) : Int) = 2 ^ k := Int.natCast_pow 2 k
    rw [htoNat, hcast]
    refine ⟨⟨_, rfl⟩, ?_, ?_⟩
    · have : m < 2 ^ (m.log2 + 1) := Nat.lt_log2_self
      rw [← hcast, hm]
      exact Int.ofNat_le.2 this
    · intro k hk
      have hlt : m < 2 ^ k := by
        rw [hm, ← hcast] at hk
        exact Int.ofNat_le.1 hk
      have hlog : m.log2 + 1 ≤ k := (Nat.log2_lt hm₀).2 hlt
      rw [← hcast, ← hcast]
      exact Int.ofNat_le.2 (Nat.pow_le_pow_right (by decide) hlog)

theorem IsNextPower.pos {n p : Int} (h : IsNextPower n p) : 0 < p := by
  obtain ⟨k, rfl⟩ := h.power
  exact Int.pow_pos (by decide)

/-- There is one least power of two. -/
theorem IsNextPower.unique {n p q : Int} (hp : IsNextPower n p) (hq : IsNextPower n q) : p = q := by
  obtain ⟨j, rfl⟩ := hp.power
  obtain ⟨k, rfl⟩ := hq.power
  exact Int.le_antisymm (hp.least k hq.le) (hq.least j hp.le)

namespace PixelBox

/-- A square one or two steps wide whose corners lie on the grid of a step. -/
structure OnGrid (b : PixelBox) (step : Int) : Prop where
  square : b.maxY - b.minY = b.maxX - b.minX
  side : b.maxX - b.minX = step ∨ b.maxX - b.minX = 2 * step
  minX : step ∣ b.minX
  minY : step ∣ b.minY
  maxX : step ∣ b.maxX
  maxY : step ∣ b.maxY

theorem cellSide_eq (b : PixelBox) (total : Int) :
    b.cellSide total = min (nextPowerOfTwo (max b.width b.height)) total := rfl

theorem cellOf_eq (b : PixelBox) {side : Int} (h : 0 < side) :
    b.cellOf side = ⟨b.minX / side * side, b.minY / side * side, b.minX / side * side + side,
      b.minY / side * side + side⟩ := by
  simp only [cellOf, ofSize, Coordinate.floorDiv_int, Int.fdiv_eq_ediv_of_nonneg _ (Int.le_of_lt h)]

/-- A cell lies on its grid. -/
theorem onGrid_cellOf (b : PixelBox) {side : Int} (h : 0 < side) : (b.cellOf side).OnGrid side := by
  rw [cellOf_eq b h]
  have hx := Int.dvd_mul_left (b.minX / side) side
  have hy := Int.dvd_mul_left (b.minY / side) side
  have hside := Int.dvd_refl side
  exact ⟨by simp only; omega, by simp only; omega, hx, hy, Int.dvd_add hx hside,
    Int.dvd_add hy hside⟩

/-- A cell doubled is twice as wide. -/
theorem doubled_width {cell : PixelBox} {side : Int} (hside : cell.maxX - cell.minX = side)
    (columns rows : Int) : (cell.doubled columns rows side).maxX -
      (cell.doubled columns rows side).minX = 2 * side := by
  simp only [doubled]
  split <;> omega

/-- A cell doubled in both directions lies on the grid as well. -/
theorem OnGrid.doubled {cell : PixelBox} {side : Int} (h : cell.OnGrid side)
    (hside : cell.maxX - cell.minX = side) (columns rows : Int) :
    (cell.doubled columns rows side).OnGrid side := by
  have hsquare := h.square
  have hstep := Int.dvd_refl side
  have hwidth := doubled_width hside columns rows
  unfold PixelBox.doubled at hwidth ⊢
  refine ⟨?_, .inr hwidth, ?_, ?_, ?_, ?_⟩ <;> simp only
  · split <;> split <;> omega
  · split
    · exact Int.dvd_sub h.minX hstep
    · exact h.minX
  · split
    · exact Int.dvd_sub h.minY hstep
    · exact h.minY
  · split
    · exact h.maxX
    · exact Int.dvd_add h.maxX hstep
  · split
    · exact h.maxY
    · exact Int.dvd_add h.maxY hstep

/-- A box lies among the columns and rows of a pyramid at least as high as it is wide. -/
structure InPyramid (b : PixelBox) (columns total : Int) : Prop where
  minX : 0 ≤ b.minX
  minY : 0 ≤ b.minY
  maxX : b.maxX ≤ columns
  maxY : b.maxY ≤ total
  columns_le : columns ≤ total
  total_pos : 1 ≤ total

namespace InPyramid

variable {b : PixelBox} {columns total : Int}

/-- The side of the cells of a box is positive, and no shorter than the box. -/
theorem cellSide_bounds (h : b.InPyramid columns total) :
    0 < b.cellSide total ∧ b.maxX - b.minX ≤ b.cellSide total ∧
      b.maxY - b.minY ≤ b.cellSide total := by
  obtain ⟨hx, hy, hx', hy', hcolumns, htotal⟩ := h
  have hnext := isNextPower_nextPowerOfTwo (max b.width b.height)
  rw [cellSide_eq]
  generalize nextPowerOfTwo (max b.width b.height) = p at hnext ⊢
  have hpos := hnext.pos
  have hle := hnext.le
  rw [width_eq, height_eq] at hle
  omega

/-- The square around a box holds the box. -/
theorem gridSquare_holds (h : b.InPyramid columns total) {x y : Int} (hxy : b.Holds x y) :
    (b.gridSquare columns total total).Holds x y := by
  obtain ⟨hside, hwidth, hheight⟩ := h.cellSide_bounds
  obtain ⟨-, -, hx', hy', -, -⟩ := h
  unfold gridSquare
  simp only
  split
  · exact contains_iff.1 ‹_› x y hxy
  · rw [cellOf_eq b hside]
    generalize b.cellSide total = side at hside hwidth hheight ⊢
    have hleft := Int.ediv_mul_le b.minX (Int.ne_of_gt hside)
    have hleft' := Int.lt_ediv_add_one_mul_self b.minX hside
    have htop := Int.ediv_mul_le b.minY (Int.ne_of_gt hside)
    have htop' := Int.lt_ediv_add_one_mul_self b.minY hside
    rw [Int.add_mul, Int.one_mul] at hleft' htop'
    unfold Holds at hxy
    simp only [doubled, Holds, Coordinate.same_int]
    -- on each axis the cell is doubled up, or it ends with the pyramid
    refine ⟨?_, ?_, ?_, ?_⟩ <;> split <;> omega

/-- The square around a box is one cell of the grid or four. -/
theorem onGrid_gridSquare (h : b.InPyramid columns total) :
    (b.gridSquare columns total total).OnGrid (b.cellSide total) := by
  obtain ⟨hside, -, -⟩ := h.cellSide_bounds
  have hcell := onGrid_cellOf b hside
  unfold gridSquare
  simp only
  split
  · exact hcell
  · refine hcell.doubled ?_ columns total
    rw [cellOf_eq b hside]
    simp only
    omega

end InPyramid

end PixelBox

namespace Resolution

/-- A pyramid with rows and columns, whose pixels are no higher than wide. -/
structure IsProper (r : Resolution) : Prop where
  total : 1 ≤ r.total
  aspectRatio : 1 ≤ r.aspectRatio
  columns : 1 ≤ Int.fdiv r.total r.aspectRatio

/-- A pyramid at least as high as its pixels are wide has columns. -/
theorem isProper_of_le {r : Resolution} (ha : 1 ≤ r.aspectRatio) (hle : r.aspectRatio ≤ r.total) :
    r.IsProper := by
  refine ⟨by omega, ha, ?_⟩
  rw [Int.fdiv_eq_ediv_of_nonneg _ (by omega)]
  exact (Int.le_ediv_iff_mul_le (by omega)).2 (by omega)

/-- The box of the pixels of a pyramid. -/
def visible (r : Resolution) : PixelBox := ⟨0, 0, Int.fdiv r.total r.aspectRatio, r.total⟩

namespace IsProper

variable {r : Resolution}

theorem columns_le (h : r.IsProper) : Int.fdiv r.total r.aspectRatio ≤ r.total := by
  obtain ⟨ht, ha, -⟩ := h
  rw [Int.fdiv_eq_ediv_of_nonneg r.total (by omega)]
  exact Int.ediv_le_self r.aspectRatio (by omega)

/-- What is cut to the pyramid lies in it. -/
theorem inPyramid_crop_visible (h : r.IsProper) {raw : PixelBox}
    (hraw : (raw.crop r.visible).isEmpty = false) :
    (raw.crop r.visible).InPyramid (Int.fdiv r.total r.aspectRatio) r.total := by
  rw [PixelBox.crop_eq_of_not_isEmpty hraw]
  refine ⟨?_, ?_, ?_, ?_, h.columns_le, h.total⟩ <;> simp only [visible] <;> omega

end IsProper

end Resolution

/-! ## Corners as numbers

Only the edges of the square on the globe are numbers; a result that needs them is there unless one
of the integers that they are computed from is out of range. -/

theorem Scalar.eq_ofInt_of_ofWhole {α : Type} [Scalar α] {n : Int} {x : α}
    (h : Scalar.ofWhole n = (.ok x : Except Fault α)) : x = Scalar.ofInt n := by
  unfold Scalar.ofWhole at h
  split at h
  · exact (Except.ok.inj h).symm
  · cases h

/-- A result that is there, unless the conversion of some integer into a number failed. -/
def Within {β : Type} (α : Type) [Scalar α] (inputs : List Int) (r : Except Fault β) : Prop :=
  (∃ b, r = .ok b) ∨ (r = .error (.value .outOfRange) ∧
    ∃ n ∈ inputs, (Scalar.ofWhole n : Except Fault α) = .error (.value .outOfRange))

namespace Within

variable {α β γ : Type} [Scalar α] {inputs : List Int}

theorem pure (b : β) : Within α inputs (.ok b : Except Fault β) := .inl ⟨b, rfl⟩

theorem bind {r : Except Fault β} {f : β → Except Fault γ} (h : Within α inputs r)
    (hf : ∀ b, Within α inputs (f b)) : Within α inputs (r >>= f) := by
  rcases h with ⟨b, rfl⟩ | ⟨rfl, n, hn, he⟩
  · exact hf b
  · exact .inr ⟨rfl, n, hn, he⟩

theorem ofWhole {n : Int} (hn : n ∈ inputs) :
    Within α inputs (Scalar.ofWhole n : Except Fault α) := by
  by_cases h : Scalar.isFinite (Scalar.ofInt n : α) = true
  · exact .inl ⟨_, if_pos h⟩
  · exact .inr ⟨if_neg h, n, hn, if_neg h⟩

theorem degrees [LawfulScalar α] {turn x : Int} (hturn : turn ≠ 0) (ht : turn ∈ inputs)
    (hx : x ∈ inputs) : Within α inputs (PyramidBounds.degrees turn x : Except Fault α) := by
  refine bind (ofWhole hx) fun x ↦ ?_
  have hwhole : Within α inputs (Scalar.ofWhole turn : Except Fault α) := ofWhole ht
  rcases hwhole with ⟨t, hok⟩ | herror
  · obtain rfl := Scalar.eq_ofInt_of_ofWhole hok
    refine .inl ⟨Scalar.ofInt 360 * x / Scalar.ofInt turn, ?_⟩
    change (Scalar.ofWhole turn >>= fun turn : α ↦ _) = _
    rw [hok]
    change (if Scalar.eq (Scalar.ofInt turn : α) Scalar.zero then _ else _) = _
    rw [LawfulScalar.eq_ofInt_zero_of_ne hturn]
    rfl
  · right
    refine ⟨?_, herror.2⟩
    change (Scalar.ofWhole turn >>= fun turn : α ↦ _) = _
    rw [herror.1]
    rfl

end Within

namespace PyramidBounds

/-- The integers that the edges of a box on the globe are computed from. -/
def lonLatInputs (box : PixelBox) (r : Resolution) : List Int :=
  [Int.fdiv r.total r.aspectRatio, r.total, box.minX, box.minY, box.maxX, box.maxY]

theorem within_linearLonLat (α : Type) [Scalar α] [LawfulScalar α] (box : PixelBox)
    {r : Resolution} (h : r.IsProper) :
    Within α (lonLatInputs box r) (linearLonLat box r : Except Fault (LonLatBox α)) := by
  obtain ⟨ht, ha, hc⟩ := h
  have hc₀ : Int.fdiv r.total r.aspectRatio ≠ 0 := by omega
  have ht₀ : r.rows ≠ 0 := by unfold Resolution.rows; omega
  have hcolumns : Int.fdiv r.total r.aspectRatio ∈ lonLatInputs box r := by simp [lonLatInputs]
  have hrows : r.rows ∈ lonLatInputs box r := by simp [lonLatInputs, Resolution.rows]
  unfold linearLonLat
  rw [Resolution.columns_eq_ok (by omega)]
  change Within α _ (degrees (Int.fdiv r.total r.aspectRatio) box.minX >>= _)
  refine .bind (.degrees hc₀ hcolumns (by simp [lonLatInputs])) fun west ↦ ?_
  refine .bind (.degrees ht₀ hrows (by simp [lonLatInputs])) fun south ↦ ?_
  refine .bind (.degrees hc₀ hcolumns (by simp [lonLatInputs])) fun east ↦ ?_
  refine .bind (.degrees ht₀ hrows (by simp [lonLatInputs])) fun north ↦ ?_
  exact .pure _

/-- Where the number of columns is beyond all doubles, no edge on the globe can be computed. -/
theorem linearLonLat_eq_outOfRange {α : Type} [Scalar α] (box : PixelBox) {r : Resolution}
    (h : r.IsProper) {x : α} (hx : Scalar.ofWhole box.minX = .ok x)
    (hcolumns : (Scalar.ofWhole (Int.fdiv r.total r.aspectRatio) : Except Fault α) =
      .error (.value .outOfRange)) :
    (linearLonLat box r : Except Fault (LonLatBox α)) = .error (.value .outOfRange) := by
  have ha := h.aspectRatio
  have hdegrees : (degrees (Int.fdiv r.total r.aspectRatio) box.minX : Except Fault α) =
      .error (.value .outOfRange) := by
    change (Scalar.ofWhole box.minX >>= fun x : α ↦ Scalar.ofWhole _ >>= _) = _
    rw [hx, hcolumns]
    rfl
  unfold linearLonLat
  rw [Resolution.columns_eq_ok (by omega)]
  change (degrees (Int.fdiv r.total r.aspectRatio) box.minX >>= _) = _
  rw [hdegrees]
  rfl

/-- The corners of a square around visible pixels are no further away than three pyramids. -/
theorem natAbs_le_of_mem_lonLatInputs {r : Resolution} (h : r.IsProper) {square : PixelBox}
    {step x y n : Int} (hsquare : square.OnGrid step) (hstep : step ≤ r.total)
    (hxy : square.Holds x y) (hvisible : r.visible.Holds x y) (hn : n ∈ lonLatInputs square r) :
    n.natAbs ≤ 3 * r.total.natAbs := by
  have hcolumns := h.columns_le
  obtain ⟨ht, -, hc⟩ := h
  have hsame := hsquare.square
  have hside := hsquare.side
  simp only [lonLatInputs, List.mem_cons, List.not_mem_nil, or_false] at hn
  unfold PixelBox.Holds at hxy hvisible
  simp only [Resolution.visible] at hvisible
  rcases hn with rfl | rfl | rfl | rfl | rfl | rfl <;> omega

/-! ## Aligning a region -/

/-- The square of a box whose cells have some size. -/
theorem alignSquare_eq_ok {box : PixelBox} {r : Resolution} (ha : r.aspectRatio ≠ 0)
    (hside : 0 < box.cellSide r.total) :
    alignSquare box r = .ok (box.gridSquare (Int.fdiv r.total r.aspectRatio) r.total r.total) := by
  unfold alignSquare
  rw [Resolution.columns_eq_ok ha]
  exact if_neg fun he ↦ Int.ne_of_gt hside (Coordinate.same_int.1 he)

/-- The square around the visible part of a box. -/
def squareAround (raw : PixelBox) (r : Resolution) : PixelBox :=
  (raw.crop r.visible).gridSquare (Int.fdiv r.total r.aspectRatio) r.total r.total

section

variable {α : Type} [Scalar α] {raw : PixelBox} {r : Resolution}

theorem alignRegion_of_isEmpty (h : r.IsProper) (hraw : (raw.crop r.visible).isEmpty = true) :
    (alignRegion raw r : Except Fault (PyramidBounds α)) =
      .error (.georeference .outsideExtent) := by
  have ha := h.aspectRatio
  unfold alignRegion
  rw [Resolution.columns_eq_ok (by omega)]
  exact if_pos hraw

theorem alignRegion_of_not_isEmpty (h : r.IsProper)
    (hraw : (raw.crop r.visible).isEmpty = false) :
    (alignRegion raw r : Except Fault (PyramidBounds α)) =
      (linearLonLat (squareAround raw r) r >>= fun lonLat ↦
        .ok ⟨squareAround raw r, raw.crop (squareAround raw r), lonLat⟩) := by
  have ha := h.aspectRatio
  obtain ⟨hside, -, -⟩ := (h.inPyramid_crop_visible hraw).cellSide_bounds
  have hsquare : alignSquare (raw.crop r.visible) r = .ok (squareAround raw r) :=
    alignSquare_eq_ok (by omega) hside
  unfold alignRegion
  rw [Resolution.columns_eq_ok (by omega)]
  change (if (raw.crop r.visible).isEmpty = true then _ else
    alignSquare (raw.crop r.visible) r >>= _) = _
  rw [if_neg (by rw [hraw]; decide), hsquare]
  rfl

/-- What aligning a region gives, when it gives something. -/
theorem boxes_of_alignRegion (h : r.IsProper) {b : PyramidBounds α}
    (hb : alignRegion raw r = .ok b) :
    (raw.crop r.visible).isEmpty = false ∧ b.total = squareAround raw r ∧
      b.data = raw.crop (squareAround raw r) ∧ linearLonLat b.total r = .ok b.lonLat := by
  by_cases hraw : (raw.crop r.visible).isEmpty = true
  · rw [alignRegion_of_isEmpty h hraw] at hb
    cases hb
  · rw [alignRegion_of_not_isEmpty h (Bool.eq_false_iff.2 hraw)] at hb
    obtain ⟨lonLat, hlonLat, hb⟩ := exists_of_bind_eq_ok hb
    cases hb
    exact ⟨Bool.eq_false_iff.2 hraw, rfl, rfl, hlonLat⟩

/-- What aligning to the globe gives, when it gives something. -/
theorem boxes_of_alignGlobe {project : Projector α} {output : Georeference α} {size : Int}
    {b : PyramidBounds α} (hb : alignGlobe project raw r output size = .ok b) :
    b.total = ⟨0, 0, r.total, r.total⟩ ∧ b.data = (raw.tileAligned size).crop b.total ∧
      projectedLonLat project b.total output = .ok b.lonLat := by
  obtain ⟨tiles, htiles, hb⟩ := exists_of_bind_eq_ok hb
  unfold alignTiles at htiles
  split at htiles
  · cases htiles
  · cases htiles
    simp only at hb
    split at hb
    · cases hb
    · obtain ⟨lonLat, hlonLat, hb⟩ := exists_of_bind_eq_ok hb
      cases hb
      exact ⟨rfl, rfl, hlonLat⟩

/-- The boxes of data inside the pyramid are there, unless an integer is out of range. -/
theorem alignRegion_cases (α : Type) [Scalar α] [LawfulScalar α] (h : r.IsProper)
    (hraw : (raw.crop r.visible).isEmpty = false) :
    (∃ lonLat, (alignRegion raw r : Except Fault (PyramidBounds α)) =
        .ok ⟨squareAround raw r, raw.crop (squareAround raw r), lonLat⟩) ∨
      (alignRegion raw r : Except Fault (PyramidBounds α)) = .error (.value .outOfRange) ∧
        ∃ n ∈ lonLatInputs (squareAround raw r) r,
          (Scalar.ofWhole n : Except Fault α) = .error (.value .outOfRange) := by
  rw [alignRegion_of_not_isEmpty h hraw]
  rcases within_linearLonLat α (squareAround raw r) h with ⟨lonLat, hok⟩ | ⟨herror, hn⟩
  · left
    refine ⟨lonLat, ?_⟩
    rw [hok]
    rfl
  · right
    refine ⟨?_, hn⟩
    rw [herror]
    rfl

/-- There are no boxes exactly when the data lie outside the pyramid. -/
theorem alignRegion_eq_outsideExtent_iff [LawfulScalar α] (h : r.IsProper) :
    (alignRegion raw r : Except Fault (PyramidBounds α)) = .error (.georeference .outsideExtent) ↔
      (raw.crop r.visible).isEmpty = true := by
  constructor
  · intro he
    by_cases hraw : (raw.crop r.visible).isEmpty = true
    · exact hraw
    · rcases alignRegion_cases α h (Bool.eq_false_iff.2 hraw) with ⟨_, hok⟩ | ⟨herror, -⟩
      · rw [hok] at he
        cases he
      · rw [herror] at he
        cases he
  · exact alignRegion_of_isEmpty h

/-- The square around visible data: on the grid, and holding them. -/
theorem squareAround_onGrid (h : r.IsProper) (hraw : (raw.crop r.visible).isEmpty = false) :
    (squareAround raw r).OnGrid ((raw.crop r.visible).cellSide r.total) :=
  (h.inPyramid_crop_visible hraw).onGrid_gridSquare

theorem squareAround_holds (h : r.IsProper) {x y : Int} (hxy : (raw.crop r.visible).Holds x y) :
    (squareAround raw r).Holds x y :=
  (h.inPyramid_crop_visible hxy.not_isEmpty).gridSquare_holds hxy

/-- Only a great pyramid has a square with a corner beyond all doubles. -/
theorem two_pow_le_total (h : r.IsProper) {n : Int}
    (hraw : (raw.crop r.visible).isEmpty = false) (hn : n ∈ lonLatInputs (squareAround raw r) r)
    (hrange : (Scalar.ofWhole n : Except Fault Float) = .error (.value .outOfRange)) :
    2 ^ 1021 ≤ r.total := by
  refine Int.not_lt.1 fun hsmall ↦ ?_
  obtain ⟨x, y, hxy⟩ := PixelBox.exists_holds_iff.2 hraw
  have hstep : (raw.crop r.visible).cellSide r.total ≤ r.total := by
    rw [PixelBox.cellSide_eq]
    omega
  have hbound := natAbs_le_of_mem_lonLatInputs h (squareAround_onGrid h hraw) hstep
    (squareAround_holds h hxy) (PixelBox.mem_crop.1 hxy).2 hn
  have ht := h.total
  rw [Double.ofWhole_eq_ok (le_refl 1023) (by omega)] at hrange
  cases hrange

end

/-- The boxes of a region lose no data.  There are none exactly when the data share no pixel with
the pyramid.  Otherwise the square is one cell, or four, of the grid whose step is the least power
of two that holds the visible data, at most the whole pyramid; it holds them, and the box of the
data is the common part of the data and the square.

These are the boxes returned, unless one of the integers that the edges on the globe are computed
from is beyond all doubles. -/
theorem align_region_keeps_data (project : Projector Float) {profile : Profile}
    (output : Georeference Float) (tileSize : Int) (raw : PixelBox) {r : Resolution}
    (hp : profile.isKmlLike = true) (ht : 1 ≤ r.total) (ha : 1 ≤ r.aspectRatio)
    (hc : 1 ≤ Int.fdiv r.total r.aspectRatio) :
    (align project profile raw r output tileSize = .error (.georeference .outsideExtent) ↔
      ∀ x y, ¬ (raw.Holds x y ∧ r.visible.Holds x y)) ∧
    ∀ clipped, clipped = raw.crop r.visible → (∃ x y, raw.Holds x y ∧ r.visible.Holds x y) →
      ∃ p step square data,
        IsNextPower (max clipped.width clipped.height) p ∧ step = min p r.total ∧
        square.OnGrid step ∧ (∀ x y, clipped.Holds x y → square.Holds x y) ∧
        (∀ x y, data.Holds x y ↔ raw.Holds x y ∧ square.Holds x y) ∧
        (∃ x y, data.Holds x y) ∧ (∀ x y, clipped.Holds x y → data.Holds x y) ∧
        ((∃ lonLat, align project profile raw r output tileSize = .ok ⟨square, data, lonLat⟩) ∨
          align project profile raw r output tileSize = .error (.value .outOfRange) ∧
            2 ^ 1021 ≤ r.total ∧ ∃ n ∈ lonLatInputs square r,
              (Scalar.ofWhole n : Except Fault Float) = .error (.value .outOfRange)) := by
  have h : r.IsProper := ⟨ht, ha, hc⟩
  have halign : align project profile raw r output tileSize = alignRegion raw r := if_pos hp
  rw [halign, alignRegion_eq_outsideExtent_iff h, PixelBox.isEmpty_crop_iff]
  refine ⟨Iff.rfl, ?_⟩
  rintro _ rfl ⟨x, y, hxy⟩
  have hclipped := PixelBox.mem_crop.2 hxy
  have hraw := hclipped.not_isEmpty
  have hholds (x y : Int) (hxy : (raw.crop r.visible).Holds x y) := squareAround_holds h hxy
  have hdata (x y : Int) (hxy : (raw.crop r.visible).Holds x y) :
      (raw.crop (squareAround raw r)).Holds x y :=
    PixelBox.mem_crop.2 ⟨(PixelBox.mem_crop.1 hxy).1, hholds x y hxy⟩
  refine ⟨_, _, squareAround raw r, raw.crop (squareAround raw r), isNextPower_nextPowerOfTwo _,
    rfl, squareAround_onGrid h hraw, hholds, fun _ _ ↦ PixelBox.mem_crop,
    ⟨x, y, hdata x y hclipped⟩, hdata, ?_⟩
  rcases alignRegion_cases Float h hraw with hok | ⟨herror, n, hn, hrange⟩
  · exact .inl hok
  · exact .inr ⟨herror, two_pow_le_total h hraw hn hrange, n, hn, hrange⟩

/-- The data of a small pyramid that lie past its edge on one side are kept as far as they are in
the square. -/
theorem align_region_keeps_data_of_sixteen_rows :
    ∃ square data lonLat, align Crs.transform .kml ⟨-3, 5, 7, 9⟩ ⟨16, 1⟩
        ⟨⟨"", [], Datum.wgs84, true⟩, Affine.identity⟩ 256 = .ok ⟨square, data, lonLat⟩ ∧
      square.OnGrid 8 ∧ ∀ x y, 0 ≤ x → x < 7 → 5 ≤ y → y < 9 → data.Holds x y := by
  obtain ⟨p, step, square, data, hp, hstep, hgrid, -, -, -, hdata, hresult⟩ :=
    (align_region_keeps_data Crs.transform ⟨⟨"", [], Datum.wgs84, true⟩, Affine.identity⟩ 256
      ⟨-3, 5, 7, 9⟩ (r := ⟨16, 1⟩) (rfl : Profile.isKmlLike .kml = true) (by decide) (by decide)
      (by decide)).2
      ⟨0, 5, 7, 9⟩ rfl ⟨0, 5, by decide, by decide⟩
  rcases hresult with ⟨lonLat, hok⟩ | ⟨-, hgreat, -⟩
  · refine ⟨square, data, lonLat, hok, ?_, fun x y hx hx' hy hy' ↦ hdata x y ⟨hx, hx', hy, hy'⟩⟩
    obtain rfl : p = 8 := hp.unique (isNextPower_nextPowerOfTwo 7)
    rwa [hstep] at hgrid
  · exact absurd hgreat (by decide +kernel)

theorem isFinite_two_pow : Scalar.isFinite (Scalar.ofInt (2 ^ 1024) : Float) = false := by
  decide +kernel

/-- A pyramid of `2 ^ 1024` rows shows the first pixel, but has no boxes around it. -/
theorem align_region_out_of_range :
    (⟨0, 0, 1, 1⟩ : PixelBox).Holds 0 0 ∧ (⟨2 ^ 1024, 1⟩ : Resolution).visible.Holds 0 0 ∧
      (1 : Int) ≤ 2 ^ 1024 ∧ (1 : Int) ≤ Int.fdiv (2 ^ 1024) 1 ∧
      ∀ bounds : PyramidBounds Float, align Crs.transform .kml ⟨0, 0, 1, 1⟩ ⟨2 ^ 1024, 1⟩
        ⟨⟨"", [], Datum.wgs84, true⟩, Affine.identity⟩ 256 ≠ .ok bounds := by
  have htotal : (1 : Int) ≤ 2 ^ 1024 := by decide +kernel
  have hcolumns : (1 : Int) ≤ Int.fdiv (2 ^ 1024) 1 := by decide +kernel
  have hfirst : (⟨0, 0, 1, 1⟩ : PixelBox).Holds 0 0 := by decide
  have hvisible : (⟨2 ^ 1024, 1⟩ : Resolution).visible.Holds 0 0 := by decide +kernel
  refine ⟨hfirst, hvisible, htotal, hcolumns, ?_⟩
  intro bounds
  have h : (⟨2 ^ 1024, 1⟩ : Resolution).IsProper := ⟨htotal, by decide, hcolumns⟩
  have hraw := (PixelBox.mem_crop.2 ⟨hfirst, hvisible⟩).not_isEmpty
  have hsquare : squareAround ⟨0, 0, 1, 1⟩ ⟨2 ^ 1024, 1⟩ = ⟨0, 0, 1, 1⟩ := by decide +kernel
  have hzero : (Scalar.ofWhole 0 : Except Fault Float) = .ok (Scalar.ofInt 0) := rfl
  have hrange : (Scalar.ofWhole (Int.fdiv (2 ^ 1024) 1) : Except Fault Float) =
      .error (.value .outOfRange) := if_neg (by rw [Int.fdiv_one, isFinite_two_pow]; decide)
  have herror : (alignRegion ⟨0, 0, 1, 1⟩ ⟨2 ^ 1024, 1⟩ : Except Fault (PyramidBounds Float)) =
      .error (.value .outOfRange) := by
    rw [alignRegion_of_not_isEmpty h hraw, hsquare,
      linearLonLat_eq_outOfRange ⟨0, 0, 1, 1⟩ h hzero hrange]
    rfl
  change alignRegion _ _ ≠ _
  rw [herror]
  exact fun h ↦ by cases h

end PyramidBounds

end QuadMosaic
