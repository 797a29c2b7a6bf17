import Mathlib
import QuadMosaic.Proofs.Inverses
import QuadMosaic.Proofs.Region
import QuadMosaic.Pyramid.OutputGrid

/-!
# The pyramid on the globe

A pyramid reports the box of its pixels as a box of longitudes and latitudes.  Latitudes are kept
between the poles.  Longitudes are not kept in a turn: the box leaves the globe in the east or in
the west exactly when its pixels leave the columns of the pyramid there, of which there are `total`
divided by the aspect ratio.

The profiles of the globe take all of `total` columns, be there so many or not.  The profiles of a
region take a square of the grid around the data.  Where the step of the grid divides the pyramid,
that square stays in it but for one case: a cell as wide as the pyramid that does not hold the data
is doubled, and there are no columns to double it into (`PixelBox.FitsAcross`).
-/

namespace QuadMosaic

/-! ## Longitudes and latitudes of columns and rows -/

theorem PyramidBounds.clampLatitude_eq (x : Rat) :
    PyramidBounds.clampLatitude x = max (-90) (min 90 x) := by
  have hlow : (Scalar.ofInt (-90) : Rat) = -90 := rfl
  have hhigh : (Scalar.ofInt 90 : Rat) = 90 := rfl
  unfold PyramidBounds.clampLatitude Scalar.clamp
  rw [hlow, hhigh]
  change (if decide (x < -90) = true then (-90 : Rat) else
    if decide (90 < x) = true then 90 else x) = _
  simp only [decide_eq_true_eq]
  split
  case isTrue h => rw [min_eq_right (by linarith), max_eq_left (le_of_lt h)]
  case isFalse h =>
    split
    case isTrue h' => rw [min_eq_left (le_of_lt h'), max_eq_right (by norm_num)]
    case isFalse h' => rw [min_eq_right (not_lt.1 h'), max_eq_right (not_lt.1 h)]

namespace LonLatBox

/-- A box with its edges in order and between the poles. -/
structure IsOrdered (b : LonLatBox Rat) : Prop where
  lon : b.west < b.east
  lat : b.south ≤ b.north
  south : -90 ≤ b.south
  north : b.north ≤ 90

/-- A box that does not cross the antimeridian either. -/
structure OnGlobe (b : LonLatBox Rat) : Prop extends b.IsOrdered where
  west : -180 ≤ b.west
  east : b.east ≤ 180

/-- A box has the longitudes of the columns of a box of pixels, where `columns` make a full turn,
and latitudes kept between the poles. -/
structure Spans (b : LonLatBox Rat) (columns : Int) (box : PixelBox) : Prop where
  west : b.west = -180 + 360 * box.minX / columns
  east : b.east = -180 + 360 * box.maxX / columns
  lat : ∃ low high : Rat, low ≤ high ∧ b.south = PyramidBounds.clampLatitude low ∧
    b.north = PyramidBounds.clampLatitude high

namespace Spans

variable {b : LonLatBox Rat} {columns : Int} {box : PixelBox}

theorem isOrdered (h : b.Spans columns box) (hcolumns : 1 ≤ columns) (hbox : box.minX < box.maxX) :
    b.IsOrdered := by
  obtain ⟨low, high, hle, hsouth, hnorth⟩ := h.lat
  have hpos : (0 : Rat) < columns := Int.cast_pos.2 hcolumns
  have hlt : (box.minX : Rat) < box.maxX := Int.cast_lt.2 hbox
  refine ⟨?lon, ?lat, ?south, ?north⟩
  case lon =>
    rw [h.west, h.east]
    have : (360 * box.minX / columns : Rat) < 360 * box.maxX / columns :=
      div_lt_div_of_pos_right (by linarith) hpos
    linarith
  case lat =>
    rw [hsouth, hnorth, PyramidBounds.clampLatitude_eq, PyramidBounds.clampLatitude_eq]
    exact max_le_max_left _ (min_le_min_left _ hle)
  case south =>
    rw [hsouth, PyramidBounds.clampLatitude_eq]
    exact le_max_left _ _
  case north =>
    rw [hnorth, PyramidBounds.clampLatitude_eq]
    exact max_le (by norm_num) (min_le_left _ _)

/-- A box reaches past the antimeridian in the west exactly when its columns begin before the
first one. -/
theorem west_iff (h : b.Spans columns box) (hcolumns : 1 ≤ columns) :
    -180 ≤ b.west ↔ 0 ≤ box.minX := by
  have hpos : (0 : Rat) < columns := Int.cast_pos.2 hcolumns
  rw [h.west, le_add_iff_nonneg_right, le_div_iff₀ hpos, zero_mul,
    mul_nonneg_iff_of_pos_left (by norm_num), Int.cast_nonneg_iff]

/-- A box reaches past the antimeridian in the east exactly when its columns end after the last
one. -/
theorem east_iff (h : b.Spans columns box) (hcolumns : 1 ≤ columns) :
    b.east ≤ 180 ↔ box.maxX ≤ columns := by
  have hpos : (0 : Rat) < columns := Int.cast_pos.2 hcolumns
  have hturn : (-180 + 360 * box.maxX / columns : Rat) ≤ 180 ↔
      (360 * box.maxX / columns : Rat) ≤ 360 := by
    constructor <;> intro h <;> linarith
  rw [h.east, hturn, div_le_iff₀ hpos, mul_le_mul_iff_right₀ (by norm_num), Int.cast_le]

theorem onGlobe_iff (h : b.Spans columns box) (hcolumns : 1 ≤ columns)
    (hbox : box.minX < box.maxX) : b.OnGlobe ↔ 0 ≤ box.minX ∧ box.maxX ≤ columns := by
  rw [← h.west_iff hcolumns, ← h.east_iff hcolumns]
  exact ⟨fun hb ↦ ⟨hb.west, hb.east⟩, fun hb ↦ ⟨h.isOrdered hcolumns hbox, hb.1, hb.2⟩⟩

end Spans

end LonLatBox

namespace PyramidBounds

theorem degrees_eq {turn : Int} (h : turn ≠ 0) (x : Int) :
    (degrees turn x : Except Fault Rat) = .ok (360 * x / turn) :=
  if_neg (Bool.eq_false_iff.1 (LawfulScalar.eq_ofInt_zero_of_ne h))

/-- The corners of a box on the grid of a region. -/
theorem linearLonLat_eq {r : Resolution} {columns : Int} (hcolumns : r.columns = .ok columns)
    (hc : columns ≠ 0) (ht : r.total ≠ 0) (box : PixelBox) : linearLonLat box r = .ok
      (⟨-180 + 360 * box.minX / columns, clampLatitude (90 - 360 * box.maxY / r.total),
        -180 + 360 * box.maxX / columns, clampLatitude (90 - 360 * box.minY / r.total)⟩ :
        LonLatBox Rat) := by
  unfold linearLonLat
  rw [hcolumns, Resolution.rows]
  change (degrees columns box.minX >>= _) = _
  rw [degrees_eq hc, degrees_eq hc, degrees_eq ht, degrees_eq ht]
  rfl

/-- The grid of a region has the longitudes of its columns. -/
theorem spans_linearLonLat {r : Resolution} (h : r.IsProper) {box : PixelBox}
    (hbox : box.minY ≤ box.maxY) {lonLat : LonLatBox Rat} (hl : linearLonLat box r = .ok lonLat) :
    lonLat.Spans (Int.fdiv r.total r.aspectRatio) box := by
  obtain ⟨htotal, haspect, hcolumns⟩ := h
  have hpos : (0 : Rat) < r.total := Int.cast_pos.2 htotal
  have hle : (box.minY : Rat) ≤ box.maxY := Int.cast_le.2 hbox
  rw [linearLonLat_eq (Resolution.columns_eq_ok (by omega)) (by omega) (by omega)] at hl
  cases hl
  refine ⟨rfl, rfl, _, _, ?_, rfl, rfl⟩
  have : (360 * box.minY / r.total : Rat) ≤ 360 * box.maxY / r.total :=
    div_le_div_of_nonneg_right (by linarith) (le_of_lt hpos)
  exact sub_le_sub_left this 90

/-- A grid in degrees is there as soon as its datum has longitudes and latitudes. -/
theorem geographic_eq {r : Resolution} {columns : Int} (hcolumns : r.columns = .ok columns)
    (hc : columns ≠ 0) (ht : r.total ≠ 0) (datum : Datum) (north span : Int) :
    OutputGrid.geographic datum r north span = Georeference.geographic datum
      (⟨360 / columns, 0, -180, 0, -span / r.total, north⟩ : Affine Rat) := by
  have hshare (length : Rat) {parts : Int} (hparts : parts ≠ 0) :
      OutputGrid.share length parts = .ok (length / parts) :=
    if_neg (Bool.eq_false_iff.1 (LawfulScalar.eq_ofInt_zero_of_ne hparts))
  unfold OutputGrid.geographic
  rw [hcolumns, Resolution.rows]
  change (OutputGrid.share _ _ >>= fun width ↦ OutputGrid.share _ _ >>= _) = _
  rw [bind_of_eq_ok (hshare _ hc), bind_of_eq_ok (hshare _ ht)]
  rfl

/-- The grid of a profile in degrees has a full turn of columns. -/
theorem transform_of_ofProfile {profile : Profile} {datum : Datum} {r : Resolution}
    (h : r.IsProper) (hp : profile ≠ .gmap) {output : Georeference Rat}
    (ho : OutputGrid.ofProfile profile datum r = .ok output) :
    ∃ north span : Int, 0 ≤ span ∧ output.transform =
      ⟨360 / Int.fdiv r.total r.aspectRatio, 0, -180, 0, -span / r.total, north⟩ := by
  obtain ⟨htotal, haspect, hcolumns⟩ := h
  have hgeographic {north span : Int}
      (ho : OutputGrid.geographic datum r north span = .ok output) : output.transform =
        ⟨360 / Int.fdiv r.total r.aspectRatio, 0, -180, 0, -span / r.total, north⟩ := by
    rw [geographic_eq (Resolution.columns_eq_ok (by omega)) (by omega) (by omega)] at ho
    obtain ⟨crs, -, ho⟩ := exists_of_bind_eq_ok ho
    cases ho
    rfl
  cases profile with
  | kml | gigapan => exact ⟨90, 360, by decide, hgeographic ho⟩
  | tms => exact ⟨180, 360, by decide, hgeographic ho⟩
  | uniview | celestia => exact ⟨90, 180, by decide, hgeographic ho⟩
  | gmap => exact absurd rfl hp
  | none | gigapanNoproj => cases ho

/-- The corners of a box on a grid whose reference system is its own geodetic one. -/
theorem projectedLonLat_eq {project : Projector Rat} {output : Georeference Rat}
    (hproject : project output.crs output.crs.geodetic = some id) (box : PixelBox) :
    projectedLonLat project box output = .ok
      (⟨(output.pixelToPoint ⟨box.minX, box.minY⟩).x,
        clampLatitude (output.pixelToPoint ⟨box.maxX, box.maxY⟩).y,
        (output.pixelToPoint ⟨box.maxX, box.maxY⟩).x,
        clampLatitude (output.pixelToPoint ⟨box.minX, box.minY⟩).y⟩ : LonLatBox Rat) := by
  unfold projectedLonLat
  rw [Georeference.pixelToLonLat_eq hproject]
  rfl

/-- A box on a grid in degrees has the longitudes of its columns. -/
theorem spans_projectedLonLat {project : Projector Rat} {output : Georeference Rat}
    {columns total north span : Int} {box : PixelBox} {lonLat : LonLatBox Rat}
    (htotal : 1 ≤ total) (hspan : 0 ≤ span) (hbox : box.minY ≤ box.maxY)
    (ht : output.transform = ⟨360 / columns, 0, -180, 0, -span / total, north⟩)
    (hproject : project output.crs output.crs.geodetic = some id)
    (hl : projectedLonLat project box output = .ok lonLat) : lonLat.Spans columns box := by
  have hpos : (0 : Rat) < total := Int.cast_pos.2 htotal
  have hle : (box.minY : Rat) ≤ box.maxY := Int.cast_le.2 hbox
  have hdown : (-span / total : Rat) ≤ 0 :=
    div_nonpos_of_nonpos_of_nonneg (neg_nonpos.2 (Int.cast_nonneg hspan)) (le_of_lt hpos)
  rw [projectedLonLat_eq hproject, Georeference.pixelToPoint, Georeference.pixelToPoint, ht] at hl
  cases hl
  refine ⟨?west, ?east, _, _, ?lat, rfl, rfl⟩
  case west =>
    change (360 / columns * box.minX + 0 * box.minY + -180 : Rat) = _
    ring
  case east =>
    change (360 / columns * box.maxX + 0 * box.maxY + -180 : Rat) = _
    ring
  case lat =>
    change (0 * box.maxX + -span / total * box.maxY + north : Rat) ≤
      0 * box.minX + -span / total * box.minY + north
    have := mul_le_mul_of_nonpos_left hle hdown
    linarith

end PyramidBounds

/-! ## The square of a region in its pyramid -/

theorem add_le_of_dvd {step a n : Int} (ha : step ∣ a) (hn : step ∣ n) (h : a < n) :
    a + step ≤ n := by
  have := Int.le_of_dvd (Int.sub_pos_of_lt h) (Int.dvd_sub hn ha)
  omega

namespace PixelBox

/-- The cell of the grid around a box holds it if the cell is as wide as the pyramid. -/
def FitsAcross (b : PixelBox) (columns total : Int) : Prop :=
  b.cellSide total = columns → (b.cellOf columns).contains b = true

namespace InPyramid

variable {b : PixelBox} {columns total : Int}

/-- Where the cell of a box in the pyramid begins, and that it reaches past the first column and the
first row of the box. -/
theorem cellOf_bounds (h : b.InPyramid columns total) :
    ∃ left top, b.cellOf (b.cellSide total) =
        ⟨left, top, left + b.cellSide total, top + b.cellSide total⟩ ∧
      b.cellSide total ∣ left ∧ b.cellSide total ∣ top ∧ 0 ≤ left ∧ 0 ≤ top ∧ left ≤ b.minX ∧
      top ≤ b.minY ∧ b.minX < left + b.cellSide total ∧ b.minY < top + b.cellSide total := by
  obtain ⟨hside, -, -⟩ := h.cellSide_bounds
  have hx := h.minX
  have hy := h.minY
  generalize b.cellSide total = side at hside ⊢
  have hleft := Int.ediv_mul_le b.minX (ne_of_gt hside)
  have hleft' := Int.lt_ediv_add_one_mul_self b.minX hside
  have htop := Int.ediv_mul_le b.minY (ne_of_gt hside)
  have htop' := Int.lt_ediv_add_one_mul_self b.minY hside
  rw [Int.add_mul, Int.one_mul] at hleft' htop'
  exact ⟨_, _, cellOf_eq b hside, Int.dvd_mul_left _ _, Int.dvd_mul_left _ _,
    Int.mul_nonneg (Int.ediv_nonneg hx (le_of_lt hside)) (le_of_lt hside),
    Int.mul_nonneg (Int.ediv_nonneg hy (le_of_lt hside)) (le_of_lt hside), hleft, htop, hleft',
    htop'⟩

/-- A cell as large as the whole pyramid holds the box. -/
theorem contains_of_cellSide_eq (h : b.InPyramid columns total) (hb : b.isEmpty = false)
    (hside : b.cellSide total = total) : (b.cellOf (b.cellSide total)).contains b = true := by
  obtain ⟨hx, hy⟩ := not_isEmpty_iff.1 hb
  obtain ⟨left, top, hcell, hleft, htop, hleft₀, htop₀, hminX, hminY, -, -⟩ := h.cellOf_bounds
  have hmaxX := h.maxX
  have hmaxY := h.maxY
  have hcolumns := h.columns_le
  rw [hcell]
  rw [hside] at hleft htop ⊢
  -- a multiple of the side before the end of the pyramid is zero
  have hleft' := Int.eq_zero_of_dvd_of_nonneg_of_lt hleft₀ (by omega) hleft
  have htop' := Int.eq_zero_of_dvd_of_nonneg_of_lt htop₀ (by omega) htop
  simp only [contains, Bool.or_eq_true, Bool.and_eq_true, decide_eq_true_eq]
  omega

/-- The square around a box is the cell that holds its least corner, or that cell doubled. -/
theorem gridSquare_cases (b : PixelBox) (columns total : Int) :
    ((b.cellOf (b.cellSide total)).contains b = true ∧
        b.gridSquare columns total total = b.cellOf (b.cellSide total)) ∨
      ((b.cellOf (b.cellSide total)).contains b = false ∧ b.gridSquare columns total total =
        (b.cellOf (b.cellSide total)).doubled columns total (b.cellSide total)) := by
  unfold gridSquare
  cases hcell : (b.cellOf (b.cellSide total)).contains b <;> simp [hcell]

/-- A cell that does not hold the box must not be as wide as the pyramid. -/
theorem fitsAcross_iff_ne {b : PixelBox} {columns total : Int}
    (h : (b.cellOf (b.cellSide total)).contains b = false) :
    b.FitsAcross columns total ↔ b.cellSide total ≠ columns := by
  constructor
  · intro hfits hcolumns
    have := hfits hcolumns
    rw [← hcolumns, h] at this
    cases this
  · exact fun hne heq ↦ absurd heq hne

/-- Where the step divides the columns, the square stays between the first column and the last one
exactly when a cell across holds the box. -/
theorem gridSquare_across_iff (h : b.InPyramid columns total) (hb : b.isEmpty = false)
    (hdvd : b.cellSide total ∣ columns) :
    0 ≤ (b.gridSquare columns total total).minX ∧
        (b.gridSquare columns total total).maxX ≤ columns ↔ b.FitsAcross columns total := by
  obtain ⟨hside, -, -⟩ := h.cellSide_bounds
  obtain ⟨hx, -⟩ := not_isEmpty_iff.1 hb
  have hmaxX := h.maxX
  obtain ⟨left, top, hcell, hleft, -, hleft₀, -, hminX, -, -, -⟩ := h.cellOf_bounds
  have hend := add_le_of_dvd hleft hdvd (by omega)
  rcases gridSquare_cases b columns total with ⟨hholds, hsquare⟩ | ⟨hholds, hsquare⟩
  · rw [hsquare, hcell]
    exact ⟨fun _ hcolumns ↦ hcolumns ▸ hholds, fun _ ↦ ⟨hleft₀, hend⟩⟩
  · rw [fitsAcross_iff_ne hholds, hsquare, hcell]
    simp only [doubled, Coordinate.same_int]
    by_cases hedge : left + b.cellSide total = columns
    · rw [if_pos hedge, if_pos hedge]
      constructor
      · omega
      · intro hne
        -- the cell is not the first one of its row, so there is one to its left
        have hfirst : 0 < left := by omega
        have := Int.le_of_dvd hfirst hleft
        omega
    · rw [if_neg hedge, if_neg hedge]
      have := add_le_of_dvd (Int.dvd_add hleft (Int.dvd_refl _)) hdvd (by omega)
      omega

/-- Where the step divides the rows, the square stays in the square of all rows exactly when a cell
across holds the box; there are as many columns as rows, or at most half as many. -/
theorem gridSquare_inside_iff (h : b.InPyramid columns total) (hb : b.isEmpty = false)
    (hdvd : b.cellSide total ∣ total) (hcolumns : columns = total ∨ 2 * columns ≤ total) :
    (b.gridSquare columns total total).Inside ⟨0, 0, total, total⟩ ↔
      b.FitsAcross columns total := by
  obtain ⟨hside, -, -⟩ := h.cellSide_bounds
  obtain ⟨hx, hy⟩ := not_isEmpty_iff.1 hb
  have hmaxX := h.maxX
  have hmaxY := h.maxY
  have hle := h.columns_le
  have hwhole := h.contains_of_cellSide_eq hb
  obtain ⟨left, top, hcell, hleft, htop, hleft₀, htop₀, hminX, hminY, -, -⟩ := h.cellOf_bounds
  have hright := add_le_of_dvd hleft hdvd (by omega)
  have hbottom := add_le_of_dvd htop hdvd (by omega)
  rcases gridSquare_cases b columns total with ⟨hholds, hsquare⟩ | ⟨hholds, hsquare⟩
  · rw [hsquare, hcell]
    exact ⟨fun _ hcolumns ↦ hcolumns ▸ hholds, fun _ ↦
      ⟨hleft₀, htop₀, hright, hbottom, by simp only; omega, by simp only; omega⟩⟩
  rw [fitsAcross_iff_ne hholds, hsquare, hcell]
  rw [hholds] at hwhole
  generalize b.cellSide total = side at *
  have hne : side ≠ total := fun h ↦ absurd (hwhole h) (by decide)
  -- the step is at most half of the pyramid
  have hhalf := add_le_of_dvd (Int.dvd_refl side) hdvd (by omega)
  constructor
  · rintro ⟨hfirst, -, -, -, -, -⟩ rfl
    have : left = 0 := Int.eq_zero_of_dvd_of_nonneg_of_lt hleft₀ (by omega) hleft
    simp only [doubled, Coordinate.same_int, this, Int.zero_add, if_true] at hfirst
    omega
  · intro hacross
    have hafter : left + side ≠ columns → left + side + side ≤ total := by
      intro hedge
      refine add_le_of_dvd (Int.dvd_add hleft (Int.dvd_refl side)) hdvd ?_
      omega
    have hbefore : left + side = columns → side ≤ left := by
      intro hedge
      exact Int.le_of_dvd (by omega) hleft
    have hbelow : top + side ≠ total → top + side + side ≤ total := by
      intro hedge
      exact add_le_of_dvd (Int.dvd_add htop (Int.dvd_refl side)) hdvd (by omega)
    refine ⟨?_, ?_, ?_, ?_, ?_, ?_⟩ <;> simp only [doubled, Coordinate.same_int] <;>
      split <;> omega

/-- The square is no narrower than a step. -/
theorem cellSide_le_gridSquare (h : b.InPyramid columns total) :
    b.cellSide total ≤ (b.gridSquare columns total total).maxX -
      (b.gridSquare columns total total).minX := by
  obtain ⟨hside, -, -⟩ := h.cellSide_bounds
  have := h.onGrid_gridSquare.side
  omega

end InPyramid

/-- The step of the grid of a pyramid whose size is a power of two. -/
theorem exists_cellSide_eq_two_pow (b : PixelBox) (k : Nat) :
    ∃ i ≤ k, b.cellSide (2 ^ k) = 2 ^ i := by
  obtain ⟨i, hi⟩ := (isNextPower_nextPowerOfTwo (max b.width b.height)).power
  refine ⟨min i k, min_le_right i k, ?_⟩
  rw [cellSide_eq, hi]
  rcases le_total i k with hle | hle
  · rw [min_eq_left hle, min_eq_left (pow_le_pow_right₀ (by decide) hle)]
  · rw [min_eq_right hle, min_eq_right (pow_le_pow_right₀ (by decide) hle)]

/-- On a pyramid whose sizes are powers of two, the square stays between the first column and the
last one exactly when it takes no more columns than there are and a cell across holds the box. -/
theorem InPyramid.gridSquare_across_iff_of_powers {b : PixelBox} {k m : Nat}
    (h : b.InPyramid (2 ^ m) (2 ^ k)) (hb : b.isEmpty = false) :
    b.cellSide (2 ^ k) ∣ 2 ^ k ∧
    (0 ≤ (b.gridSquare (2 ^ m) (2 ^ k) (2 ^ k)).minX ∧
        (b.gridSquare (2 ^ m) (2 ^ k) (2 ^ k)).maxX ≤ 2 ^ m ↔
      b.cellSide (2 ^ k) ≤ 2 ^ m ∧ b.FitsAcross (2 ^ m) (2 ^ k)) := by
  obtain ⟨i, hik, hi⟩ := exists_cellSide_eq_two_pow b k
  have hwidth := h.cellSide_le_gridSquare
  refine ⟨hi ▸ pow_dvd_pow 2 hik, ?_⟩
  by_cases hle : b.cellSide (2 ^ k) ≤ 2 ^ m
  · rw [hi, pow_le_pow_iff_right₀ (by decide)] at hle
    rw [h.gridSquare_across_iff hb (hi ▸ pow_dvd_pow 2 hle)]
    rw [hi, pow_le_pow_iff_right₀ (by decide)]
    exact (and_iff_right hle).symm
  · constructor
    · omega
    · exact fun hfits ↦ absurd hfits.1 hle

/-- On a pyramid with as many columns as rows, a power of two, the square stays in the pyramid. -/
theorem InPyramid.gridSquare_inside_of_power {b : PixelBox} {k : Nat}
    (h : b.InPyramid (2 ^ k) (2 ^ k)) (hb : b.isEmpty = false) :
    (b.gridSquare (2 ^ k) (2 ^ k) (2 ^ k)).Inside ⟨0, 0, 2 ^ k, 2 ^ k⟩ := by
  obtain ⟨i, hik, hi⟩ := exists_cellSide_eq_two_pow b k
  have hdvd : b.cellSide (2 ^ k) ∣ 2 ^ k := hi ▸ pow_dvd_pow 2 hik
  have hfits : b.FitsAcross (2 ^ k) (2 ^ k) :=
    fun hside ↦ hside ▸ h.contains_of_cellSide_eq hb hside
  exact (h.gridSquare_inside_iff hb hdvd (.inl rfl)).2 hfits

end PixelBox

namespace Resolution

variable {r : Resolution}

/-- A pyramid has as many columns as rows, or at most half as many. -/
theorem columns_eq_or_le (h : r.IsProper) :
    Int.fdiv r.total r.aspectRatio = r.total ∨ 2 * Int.fdiv r.total r.aspectRatio ≤ r.total := by
  obtain ⟨-, ha, hc⟩ := h
  rw [Int.fdiv_eq_ediv_of_nonneg _ (by omega)] at hc ⊢
  have hmul := Int.ediv_mul_le r.total (by omega : r.aspectRatio ≠ 0)
  rcases (by omega : r.aspectRatio = 1 ∨ 2 ≤ r.aspectRatio) with hone | htwo
  · left
    rw [hone, Int.ediv_one]
  · right
    calc 2 * (r.total / r.aspectRatio) ≤ r.aspectRatio * (r.total / r.aspectRatio) :=
          Int.mul_le_mul_of_nonneg_right htwo (by omega)
      _ = r.total / r.aspectRatio * r.aspectRatio := Int.mul_comm _ _
      _ ≤ r.total := hmul

/-- The columns of a pyramid whose sizes are powers of two. -/
theorem exists_columns_eq_two_pow {j k : Nat} (h : (2 ^ j : Int) ≤ 2 ^ k) :
    ∃ m : Nat, Int.fdiv (2 ^ k) (2 ^ j) = 2 ^ m := by
  rw [pow_le_pow_iff_right₀ (by decide)] at h
  refine ⟨k - j, ?_⟩
  rw [Int.fdiv_eq_ediv_of_nonneg _ (by positivity), ← Nat.sub_add_cancel h, pow_add,
    Nat.sub_add_cancel h]
  exact Int.mul_ediv_cancel _ (by positivity)

end Resolution

namespace PyramidBounds

variable {project : Projector Rat} {profile : Profile} {datum : Datum} {raw : PixelBox}
  {r : Resolution} {output : Georeference Rat} {size : Int} {b : PyramidBounds Rat}

/-- The box on the globe of aligned boxes has the longitudes of the columns of the pyramid. -/
theorem spans_of_align (h : r.IsProper) (hp : profile ≠ .gmap)
    (ho : OutputGrid.ofProfile profile datum r = .ok output)
    (hproject : project output.crs output.crs.geodetic = some id)
    (hb : align project profile raw r output size = .ok b) :
    b.total.minX < b.total.maxX ∧ b.lonLat.Spans (Int.fdiv r.total r.aspectRatio) b.total := by
  unfold align at hb
  split at hb
  case isTrue =>
    obtain ⟨hraw, htotal, -, hl⟩ := boxes_of_alignRegion h hb
    obtain ⟨hside, -, -⟩ := (h.inPyramid_crop_visible hraw).cellSide_bounds
    obtain ⟨hsquare, hwidth, -, -, -, -⟩ := squareAround_onGrid h hraw
    rw [← htotal] at hsquare hwidth
    exact ⟨by omega, spans_linearLonLat h (by omega) hl⟩
  case isFalse =>
    obtain ⟨north, span, hspan, ht⟩ := transform_of_ofProfile h hp ho
    obtain ⟨htotal, -, hl⟩ := boxes_of_alignGlobe hb
    have hrows := h.total
    refine ⟨?_, spans_projectedLonLat hrows hspan ?_ ht hproject hl⟩ <;> rw [htotal] <;>
      simp only <;> omega

/-- The pixels of a pyramid of the globe are all that there can be, and those of a region the square
around its data. -/
theorem total_of_align (h : r.IsProper) (hb : align project profile raw r output size = .ok b) :
    (profile.isKmlLike = false → b.total = ⟨0, 0, r.total, r.total⟩) ∧
    (profile.isKmlLike = true →
      (raw.crop r.visible).isEmpty = false ∧ b.total = squareAround raw r) := by
  unfold align at hb
  split at hb
  case isTrue hkml =>
    obtain ⟨hraw, htotal, -, -⟩ := boxes_of_alignRegion h hb
    exact ⟨fun hglobe ↦ absurd (hkml.symm.trans hglobe) (by decide), fun _ ↦ ⟨hraw, htotal⟩⟩
  case isFalse hglobe =>
    exact ⟨fun _ ↦ (boxes_of_alignGlobe hb).1, fun hkml ↦ absurd hkml hglobe⟩

/-- The box that a pyramid in degrees reports on the globe, with exact numbers.  Its edges are in
order and its latitudes between the poles; it stays between the antimeridians exactly as far as its
pixels stay between the first and the last column.

The profiles of the globe take `total` columns.  Where `FitsAcross`, the square around a region
stays in the pyramid when the step of its grid divides the rows, and on the globe when the step
divides the columns; among powers of two, it does the one always and the other exactly when it is no
greater.  With square pixels there is nothing to ask for. -/
theorem bounds_on_globe (hp : profile ≠ .gmap) (ha : 1 ≤ r.aspectRatio)
    (hle : r.aspectRatio ≤ r.total) (ho : OutputGrid.ofProfile profile datum r = .ok output)
    (hproject : project output.crs output.crs.geodetic = some id)
    (hb : align project profile raw r output size = .ok b) :
    b.lonLat.IsOrdered ∧
    (-180 ≤ b.lonLat.west ↔ 0 ≤ b.total.minX) ∧
    (b.lonLat.east ≤ 180 ↔ b.total.maxX ≤ Int.fdiv r.total r.aspectRatio) ∧
    (profile.isKmlLike = false → b.total = ⟨0, 0, r.total, r.total⟩) ∧
    (profile.isKmlLike = true → ∀ clipped columns side, clipped = raw.crop r.visible →
      columns = Int.fdiv r.total r.aspectRatio → side = clipped.cellSide r.total →
      clipped.FitsAcross columns r.total →
        (side ∣ r.total → b.total.Inside ⟨0, 0, r.total, r.total⟩) ∧
        (side ∣ columns → b.lonLat.OnGlobe) ∧
        ((∃ k : Nat, r.total = 2 ^ k) → (∃ j : Nat, r.aspectRatio = 2 ^ j) →
          side ∣ r.total ∧ (b.lonLat.OnGlobe ↔ side ≤ columns))) ∧
    (r.aspectRatio = 1 → (profile.isKmlLike = true → ∃ k : Nat, r.total = 2 ^ k) →
      b.total.Inside ⟨0, 0, r.total, r.total⟩ ∧ b.lonLat.OnGlobe) := by
  have h := Resolution.isProper_of_le ha hle
  obtain ⟨hwidth, hspans⟩ := spans_of_align h hp ho hproject hb
  have honGlobe := hspans.onGlobe_iff h.columns hwidth
  obtain ⟨hglobe, hregion⟩ := total_of_align h hb
  refine ⟨hspans.isOrdered h.columns hwidth, hspans.west_iff h.columns, hspans.east_iff h.columns,
    hglobe, ?region, ?square⟩
  case region =>
    rintro hkml _ _ _ rfl rfl rfl hfits
    obtain ⟨hraw, htotal⟩ := hregion hkml
    have hin := h.inPyramid_crop_visible hraw
    rw [honGlobe, htotal]
    refine ⟨fun hdvd ↦ (hin.gridSquare_inside_iff hraw hdvd
      (Resolution.columns_eq_or_le h)).2 hfits,
      fun hdvd ↦ (hin.gridSquare_across_iff hraw hdvd).2 hfits, ?_⟩
    rintro ⟨k, hk⟩ ⟨j, hj⟩
    obtain ⟨m, hm⟩ := Resolution.exists_columns_eq_two_pow (hj ▸ hk ▸ hle)
    unfold squareAround
    rw [hk, hj, hm] at hin hfits ⊢
    obtain ⟨hdvd, hacross⟩ := hin.gridSquare_across_iff_of_powers hraw
    exact ⟨hdvd, hacross.trans (and_iff_left hfits)⟩
  case square =>
    intro hone hpower
    have hcolumns : Int.fdiv r.total r.aspectRatio = r.total := by rw [hone, Int.fdiv_one]
    have hrows := h.total
    rw [honGlobe, hcolumns]
    cases hkml : profile.isKmlLike with
    | false =>
      rw [hglobe hkml]
      exact ⟨⟨le_refl _, le_refl _, le_refl _, le_refl _, hrows, hrows⟩, le_refl _, le_refl _⟩
    | true =>
      obtain ⟨hraw, htotal⟩ := hregion hkml
      obtain ⟨k, hk⟩ := hpower hkml
      have hin := h.inPyramid_crop_visible hraw
      rw [hcolumns, hk] at hin
      have hinside := hin.gridSquare_inside_of_power hraw
      rw [htotal]
      unfold squareAround
      rw [hcolumns, hk]
      exact ⟨hinside, hinside.left, hinside.right⟩

/-- A square as wide as a pyramid with pixels twice as wide as high takes a full turn. -/
theorem bounds_on_globe_of_eight_rows :
    ∃ (output : Georeference Rat) (b : PyramidBounds Rat),
      OutputGrid.ofProfile .kml Datum.wgs84 (⟨8, 2⟩ : Resolution) = .ok output ∧
      align (fun _ _ ↦ some id) .kml ⟨0, 0, 3, 3⟩ ⟨8, 2⟩ output 256 = .ok b ∧
      b.total.Inside ⟨0, 0, 8, 8⟩ ∧ b.lonLat.OnGlobe := by
  obtain ⟨output, ho⟩ : ∃ output : Georeference Rat,
      OutputGrid.ofProfile .kml Datum.wgs84 (⟨8, 2⟩ : Resolution) = .ok output := ⟨_, rfl⟩
  obtain ⟨b, hb⟩ : ∃ b : PyramidBounds Rat,
      align (fun _ _ ↦ some id) .kml ⟨0, 0, 3, 3⟩ ⟨8, 2⟩ output 256 = .ok b := ⟨_, rfl⟩
  obtain ⟨-, -, -, -, hregion, -⟩ :=
    bounds_on_globe (by decide) (by decide) (by decide) ho rfl hb
  obtain ⟨hinside, honGlobe, -⟩ := hregion rfl ⟨0, 0, 3, 3⟩ 4 4 rfl rfl rfl fun _ ↦ rfl
  exact ⟨output, b, ho, hb, hinside (by decide), honGlobe (by decide)⟩

/-- A pyramid of the globe with pixels twice as wide as high makes two turns, and so does the square
around data that fill its columns. -/
theorem align_leaves_globe :
    (∃ (output : Georeference Rat) (b : PyramidBounds Rat),
      OutputGrid.ofProfile .tms Datum.wgs84 (⟨1024, 2⟩ : Resolution) = .ok output ∧
      align (fun _ _ ↦ some id) .tms ⟨0, 0, 1, 1⟩ ⟨1024, 2⟩ output 256 = .ok b ∧
      b.lonLat.east = 540) ∧
    (∃ (output : Georeference Rat) (b : PyramidBounds Rat),
      OutputGrid.ofProfile .kml Datum.wgs84 (⟨4, 2⟩ : Resolution) = .ok output ∧
      align (fun _ _ ↦ some id) .kml ⟨0, 1, 2, 3⟩ ⟨4, 2⟩ output 256 = .ok b ∧
      b.total = ⟨-2, 0, 2, 4⟩ ∧ b.lonLat.west = -540) := by
  constructor
  · obtain ⟨output, ho⟩ : ∃ output : Georeference Rat,
        OutputGrid.ofProfile .tms Datum.wgs84 (⟨1024, 2⟩ : Resolution) = .ok output := ⟨_, rfl⟩
    obtain ⟨b, hb⟩ : ∃ b : PyramidBounds Rat,
        align (fun _ _ ↦ some id) .tms ⟨0, 0, 1, 1⟩ ⟨1024, 2⟩ output 256 = .ok b := by
      cases ho
      exact ⟨_, rfl⟩
    obtain ⟨-, hspans⟩ := spans_of_align ⟨by decide, by decide, by decide⟩ (by decide) ho rfl hb
    obtain ⟨htotal, -, -⟩ := boxes_of_alignGlobe hb
    refine ⟨output, b, ho, hb, ?_⟩
    rw [hspans.east, htotal]
    norm_num [Int.fdiv]
  · obtain ⟨output, ho⟩ : ∃ output : Georeference Rat,
        OutputGrid.ofProfile .kml Datum.wgs84 (⟨4, 2⟩ : Resolution) = .ok output := ⟨_, rfl⟩
    have hproper : (⟨4, 2⟩ : Resolution).IsProper := ⟨by decide, by decide, by decide⟩
    obtain ⟨b, hb⟩ : ∃ b : PyramidBounds Rat,
        align (fun _ _ ↦ some id) .kml ⟨0, 1, 2, 3⟩ ⟨4, 2⟩ output 256 = .ok b := ⟨_, rfl⟩
    obtain ⟨-, hspans⟩ := spans_of_align hproper (by decide) ho rfl hb
    obtain ⟨-, htotal, -, -⟩ := boxes_of_alignRegion hproper hb
    have hsquare : b.total = ⟨-2, 0, 2, 4⟩ := htotal.trans (by decide)
    refine ⟨output, b, ho, hb, hsquare, ?_⟩
    rw [hspans.west, hsquare]
    norm_num [Int.fdiv]

end PyramidBounds

end QuadMosaic
