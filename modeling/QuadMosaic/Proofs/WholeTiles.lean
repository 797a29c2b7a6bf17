import Mathlib
import QuadMosaic.Proofs.Bookkeeping
import QuadMosaic.Proofs.Faults
import QuadMosaic.Proofs.Region
import QuadMosaic.Pyramid.OutputGrid

/-!
# Whole tiles of the globe

The profiles of the globe take the whole square of the pyramid.  The box of the data is grown to
whole tiles and cut to that square, whose far edges need not be those of tiles.

Growing rounds each corner to the nearest multiple of the size of a tile outside, and zero is a
multiple.  So data that end before the first column or row of the square end there after growing as
well.  Data that begin beyond the last ones could be carried back into the square; a composed canvas
has none of these, since its views begin before the far edges.
-/

namespace QuadMosaic

/-! ## Multiples of a size -/

section

variable {size n m total : Int}

/-- The greatest multiple of a size below a number. -/
theorem isGreatest_roundDown (hsize : 0 < size) (n : Int) :
    IsGreatest {m | size ∣ m ∧ m ≤ n} (Int.fdiv n size * size) := by
  rw [Int.fdiv_eq_ediv_of_nonneg n (le_of_lt hsize)]
  refine ⟨⟨Int.dvd_mul_left _ _, Int.ediv_mul_le n (ne_of_gt hsize)⟩, ?_⟩
  rintro _ ⟨⟨q, rfl⟩, hle⟩
  rw [mul_comm] at hle ⊢
  exact mul_le_mul_of_nonneg_right ((Int.le_ediv_iff_mul_le hsize).2 hle) (le_of_lt hsize)

/-- The least multiple of a size above a number. -/
theorem isLeast_roundUp (hsize : 0 < size) (n : Int) :
    IsLeast {m | size ∣ m ∧ n ≤ m} (-Int.fdiv (-n) size * size) := by
  obtain ⟨⟨hdvd, hle⟩, hgreatest⟩ := isGreatest_roundDown hsize (-n)
  rw [neg_mul]
  refine ⟨⟨(dvd_neg).2 hdvd, by omega⟩, ?_⟩
  rintro m ⟨hm, hn⟩
  have := hgreatest ⟨(dvd_neg).2 hm, neg_le_neg hn⟩
  omega

/-- No multiple lies between a number cut at zero and the multiple below it. -/
theorem le_max_roundDown (hsize : 0 < size) (hm : size ∣ m) (h : m ≤ max n 0) :
    m ≤ max (Int.fdiv n size * size) 0 := by
  rcases le_max_iff.1 h with h | h
  · exact le_max_of_le_left ((isGreatest_roundDown hsize n).2 ⟨hm, h⟩)
  · exact le_max_of_le_right h

/-- No multiple lies between a number cut at the far edge and the multiple above it. -/
theorem min_roundUp_le (hsize : 0 < size) (hm : size ∣ m ∨ m = total) (h : min n total ≤ m) :
    min (-Int.fdiv (-n) size * size) total ≤ m := by
  rcases hm with hm | rfl
  · rcases min_le_iff.1 h with h | h
    · exact min_le_of_left_le ((isLeast_roundUp hsize n).2 ⟨hm, h⟩)
    · exact min_le_of_right_le h
  · exact min_le_right _ _

end

namespace PixelBox

/-- A box of whole tiles, but for those that the far edges of the pyramid cut. -/
structure IsTiled (b : PixelBox) (size total : Int) : Prop where
  minX : size ∣ b.minX
  minY : size ∣ b.minY
  maxX : size ∣ b.maxX ∨ b.maxX = total
  maxY : size ∣ b.maxY ∨ b.maxY = total

/-- A box grown to whole tiles holds the box. -/
theorem holds_tileAligned {b : PixelBox} {size x y : Int} (hsize : 0 < size) (h : b.Holds x y) :
    (b.tileAligned size).Holds x y := by
  obtain ⟨hleft, hright, htop, hbottom⟩ := h
  exact ⟨le_trans (isGreatest_roundDown hsize b.minX).1.2 hleft,
    lt_of_lt_of_le hright (isLeast_roundUp hsize b.maxX).1.2,
    le_trans (isGreatest_roundDown hsize b.minY).1.2 htop,
    lt_of_lt_of_le hbottom (isLeast_roundUp hsize b.maxY).1.2⟩

/-- The data of a box on the globe: whole tiles, as far as the pyramid goes. -/
def wholeTiles (raw : PixelBox) (size total : Int) : PixelBox :=
  (raw.tileAligned size).crop ⟨0, 0, total, total⟩

section

variable {raw : PixelBox} {size total : Int}

theorem wholeTiles_eq (h : (raw.wholeTiles size total).isEmpty = false) :
    raw.wholeTiles size total = ⟨max (Int.fdiv raw.minX size * size) 0,
      max (Int.fdiv raw.minY size * size) 0, min (-Int.fdiv (-raw.maxX) size * size) total,
      min (-Int.fdiv (-raw.maxY) size * size) total⟩ := crop_eq_of_not_isEmpty h

/-- Pixels shared with the pyramid are kept. -/
theorem holds_wholeTiles (hsize : 0 < size) {x y : Int}
    (h : (raw.crop ⟨0, 0, total, total⟩).Holds x y) : (raw.wholeTiles size total).Holds x y := by
  obtain ⟨hraw, hwhole⟩ := mem_crop.1 h
  exact mem_crop.2 ⟨holds_tileAligned hsize hraw, hwhole⟩

/-- Growing to whole tiles brings no box into the pyramid that begins before its far edges. -/
theorem isEmpty_wholeTiles_iff (hsize : 0 < size) (hraw : raw.isEmpty = false)
    (hx : raw.minX < total) (hy : raw.minY < total) :
    (raw.wholeTiles size total).isEmpty = true ↔
      (raw.crop ⟨0, 0, total, total⟩).isEmpty = true := by
  constructor
  · intro hempty
    apply isEmpty_iff_forall.2
    intro x y hxy
    exact isEmpty_iff_forall.1 hempty x y (holds_wholeTiles hsize hxy)
  · intro hempty
    by_contra hdata
    have hdata := Bool.eq_false_iff.2 hdata
    obtain ⟨hcols, hrows⟩ := not_isEmpty_iff.1 hdata
    obtain ⟨hwidth, hheight⟩ := not_isEmpty_iff.1 hraw
    rw [wholeTiles_eq hdata] at hcols hrows
    dsimp only at hcols hrows
    -- what ends at zero or before is rounded to zero at most
    have hend (n : Int) (h : 0 < -Int.fdiv (-n) size * size) : 0 < n := by
      by_contra hle
      have := (isLeast_roundUp hsize n).2 ⟨dvd_zero size, not_lt.1 hle⟩
      omega
    have hright := hend raw.maxX (by omega)
    have hbottom := hend raw.maxY (by omega)
    apply isEmpty_crop_iff.1 hempty (max raw.minX 0) (max raw.minY 0)
    simp only [Holds]
    omega

/-- They are whole tiles, but for those that the far edges cut. -/
theorem isTiled_wholeTiles (h : (raw.wholeTiles size total).isEmpty = false) :
    (raw.wholeTiles size total).IsTiled size total := by
  have hnear (n : Int) : size ∣ max (Int.fdiv n size * size) 0 := by
    rcases max_choice (Int.fdiv n size * size) 0 with h | h <;> rw [h]
    · exact Int.dvd_mul_left _ _
    · exact dvd_zero size
  have hfar (n : Int) : size ∣ min (-Int.fdiv (-n) size * size) total ∨
      min (-Int.fdiv (-n) size * size) total = total := by
    rcases min_choice (-Int.fdiv (-n) size * size) total with h | h <;> rw [h]
    · exact .inl (Int.dvd_mul_left _ _)
    · exact .inr rfl
  rw [wholeTiles_eq h]
  exact ⟨hnear raw.minX, hnear raw.minY, hfar raw.maxX, hfar raw.maxY⟩

/-- No box of whole tiles around the shared pixels is smaller. -/
theorem wholeTiles_inside (hsize : 0 < size)
    (hshared : (raw.crop ⟨0, 0, total, total⟩).isEmpty = false)
    (h : (raw.wholeTiles size total).isEmpty = false) {other : PixelBox}
    (hother : other.IsTiled size total)
    (hholds : ∀ x y, (raw.crop ⟨0, 0, total, total⟩).Holds x y → other.Holds x y) :
    (raw.wholeTiles size total).Inside other := by
  obtain ⟨hcols, hrows⟩ := not_isEmpty_iff.1 h
  obtain ⟨hwidth, hheight⟩ := not_isEmpty_iff.1 hshared
  rw [crop_eq_of_not_isEmpty hshared] at hholds hwidth hheight
  dsimp only at hwidth hheight
  obtain ⟨hleft, -, htop, -⟩ := hholds (max raw.minX 0) (max raw.minY 0)
    (by simp only [Holds]; omega)
  obtain ⟨-, hright, -, hbottom⟩ := hholds (min raw.maxX total - 1) (min raw.maxY total - 1)
    (by simp only [Holds]; omega)
  rw [wholeTiles_eq h] at hcols hrows ⊢
  exact ⟨le_max_roundDown hsize hother.minX hleft, le_max_roundDown hsize hother.minY htop,
    min_roundUp_le hsize hother.maxX (by omega), min_roundUp_le hsize hother.maxY (by omega),
    hcols, hrows⟩

end

end PixelBox

/-! ## The box of a composition -/

/-- A box with pixels begins before a column and a row. -/
def PixelBox.BeginsBefore (b : PixelBox) (columns rows : Int) : Prop :=
  b.isEmpty = false → b.minX < columns ∧ b.minY < rows

theorem PixelBox.BeginsBefore.union {b other : PixelBox} {columns rows : Int}
    (h : b.BeginsBefore columns rows) (hother : other.BeginsBefore columns rows) :
    (b.union other).BeginsBefore columns rows := by
  intro hunion
  unfold PixelBox.union at hunion ⊢
  split at hunion
  case isTrue hb =>
    rw [if_pos hb]
    exact hother hunion
  case isFalse hb =>
    obtain ⟨hx, hy⟩ := h (Bool.eq_false_iff.2 hb)
    rw [if_neg hb]
    split
    · exact ⟨hx, hy⟩
    · exact ⟨min_lt_of_left_lt hx, min_lt_of_left_lt hy⟩

namespace Composition

variable {α : Type} {c c' : Composition α} {columns rows : Int}

/-- Views that begin before a column and a row leave a canvas that does. -/
theorem beginsBefore_of_lay {pixels : Raster α} {minY : Int} {label : String}
    {origins : List (Int × Bool)} (h : c.canvas.box.BeginsBefore columns rows)
    (hx : ∀ o ∈ origins, o.1 < columns) (hy : minY < rows)
    (hlay : lay pixels minY label origins c = .ok c') :
    c'.canvas.box.BeginsBefore columns rows := by
  induction origins generalizing c with
  | nil =>
    cases hlay
    exact h
  | cons o origins ih =>
    obtain ⟨x, wrapped⟩ := o
    obtain ⟨hfirst, hrest⟩ := List.forall_mem_cons.1 hx
    obtain ⟨⟨canvas, view⟩, hinsert, hlay⟩ := exists_of_bind_eq_ok hlay
    obtain ⟨rfl, -⟩ := of_insert hinsert
    obtain ⟨-, hcanvas⟩ := Canvas.eq_of_insert hinsert
    have hbegins : canvas.box.BeginsBefore columns rows := by
      rw [hcanvas]
      exact h.union fun _ ↦ ⟨hfirst, hy⟩
    exact ih hbegins hrest hlay

variable [Scalar α] {engine : Engine α} {settings : ComposeSettings α} {output : Georeference α}
  {resolution : Resolution} {channel : ChannelType} {colorBands : Nat} {log log' : List LogRecord}

/-- The origins of a box in the extent lie before the right edge. -/
theorem beginsBefore_of_addSource {placed : RasterSource α × Georeference α}
    (h : c.canvas.box.BeginsBefore columns resolution.rows)
    (hadd : addSource engine settings output resolution columns channel colorBands c placed.1
      placed.2 log = .ok c' log') :
    c'.canvas.box.BeginsBefore columns resolution.rows := by
  rcases addSource_cases hadd with ⟨-, rfl⟩ | ⟨-, box, wrap, pixels, htarget, hbox, -, hall⟩
  · exact h
  · rw [hall] at hadd
    obtain ⟨-, -, hright, hbottom, hcols, hrows⟩ := inside_of_targetBox htarget hbox
    refine beginsBefore_of_lay h ?_ (lt_of_lt_of_le hrows hbottom) (Logging.eq_ok_of_ofExcept hadd).1
    intro o ho
    rcases mem_origins.1 ho with ⟨-, rfl⟩ | ⟨hleft, rfl⟩
    · exact sub_lt_iff_lt_add.2 (lt_of_lt_of_le hcols hright)
    · exact hleft

theorem beginsBefore_of_foldlM {sources : List (RasterSource α × Georeference α)}
    (h : c.canvas.box.BeginsBefore columns resolution.rows)
    (hfold : sources.foldlM (m := Logging) (fun c (source, georeference) ↦ addSource engine settings
      output resolution columns channel colorBands c source georeference) c log = .ok c' log') :
    c'.canvas.box.BeginsBefore columns resolution.rows := by
  induction sources generalizing c log with
  | nil =>
    cases hfold
    exact h
  | cons placed sources ih =>
    obtain ⟨next, mid, hadd, hfold⟩ := Action.exists_of_bind_eq_ok hfold
    exact ih (beginsBefore_of_addSource h hadd) hfold

/-- The canvas of a composition begins before the far edges of the pyramid. -/
theorem beginsBefore_of_compose {sources : List (RasterSource α × Georeference α)}
    {composition : Composition α} (ht : 1 ≤ resolution.total) (ha : 1 ≤ resolution.aspectRatio)
    (h : compose engine settings output resolution sources log = .ok composition log') :
    composition.canvas.box.BeginsBefore resolution.total resolution.total := by
  obtain ⟨hrange, channel, colorBands, columns, hchannel, hbands, hcolumns⟩ := exists_of_compose h
  rw [compose_eq hrange hchannel hbands hcolumns] at h
  have hle : columns ≤ resolution.total := by
    rw [Resolution.columns_eq_ok (by omega), Int.fdiv_eq_ediv_of_nonneg _ (by omega)] at hcolumns
    cases hcolumns
    exact Int.ediv_le_self _ (by omega)
  have hstart : (PixelBox.empty : PixelBox).BeginsBefore columns resolution.rows :=
    fun hempty ↦ absurd hempty (by decide)
  intro hpixels
  obtain ⟨hx, hy⟩ := beginsBefore_of_foldlM hstart h hpixels
  exact ⟨lt_of_lt_of_le hx hle, hy⟩

end Composition

/-! ## The grid of a profile -/

namespace OutputGrid

variable {α : Type} [Scalar α] {r : Resolution} {output : Georeference α}

theorem exists_of_share {length x : α} {parts : Int} (h : share length parts = .ok x) :
    ∃ n : α, Scalar.ofWhole parts = .ok n := by
  obtain ⟨n, hn, -⟩ := exists_of_bind_eq_ok h
  exact ⟨n, hn⟩

/-- A profile has a grid only for as many rows as can be divided by. -/
theorem exists_of_ofProfile {profile : Profile} {datum : Datum}
    (h : ofProfile profile datum r = .ok output) : ∃ n : α, Scalar.ofWhole r.total = .ok n := by
  have hgeographic {north span : Int} (h : geographic datum r north span = .ok output) :
      ∃ n : α, Scalar.ofWhole r.total = .ok n := by
    obtain ⟨columns, -, h⟩ := exists_of_bind_eq_ok h
    obtain ⟨width, -, h⟩ := exists_of_bind_eq_ok h
    obtain ⟨height, hheight, -⟩ := exists_of_bind_eq_ok h
    exact exists_of_share hheight
  cases profile with
  | kml | gigapan | tms | uniview | celestia => exact hgeographic h
  | gmap =>
    obtain ⟨radius, -, h⟩ := exists_of_bind_eq_ok h
    obtain ⟨columns, -, h⟩ := exists_of_bind_eq_ok h
    obtain ⟨width, -, h⟩ := exists_of_bind_eq_ok h
    obtain ⟨height, hheight, -⟩ := exists_of_bind_eq_ok h
    exact exists_of_share hheight
  | none | gigapanNoproj => cases h

end OutputGrid

namespace PyramidBounds

/-! ## The corners of the pyramid on the globe -/

/-- Why the corners of a box have no longitudes and latitudes. -/
inductive Unprojected {α : Type} [Scalar α] (project : Projector α) (box : PixelBox)
    (output : Georeference α) : Fault → Prop
  | outOfRange (n : Int) (hn : n ∈ [box.minX, box.minY, box.maxX, box.maxY])
      (h : (Scalar.ofWhole n : Except Fault α) = .error (.value .outOfRange)) :
      Unprojected project box output (.value .outOfRange)
  | unrelatedBodies (h : project output.crs output.crs.geodetic = none) :
      Unprojected project box output (.value .unrelatedBodies)

section

variable {α : Type} [Scalar α] {project : Projector α} {raw : PixelBox} {r : Resolution}
  {output : Georeference α} {size : Int}

theorem failsOnly_projectedLonLat (project : Projector α) (box : PixelBox)
    (output : Georeference α) :
    FailsOnly (Unprojected project box output) (projectedLonLat project box output) := by
  have hcorner (n : Int) (hn : n ∈ [box.minX, box.minY, box.maxX, box.maxY]) :
      FailsOnly (Unprojected project box output) (Scalar.ofWhole n : Except Fault α) := by
    intro e he
    obtain rfl := FailsOnly.ofWhole α n e he
    exact .outOfRange n hn he
  have hproject : FailsOnly (Unprojected project box output) (output.pixelToLonLat project) := by
    refine .bind ?_ fun _ _ ↦ .ok _
    intro e he
    unfold Projector.between at he
    split at he
    case h_1 => cases he
    case h_2 hnone =>
      cases he
      exact .unrelatedBodies hnone
  refine .bind (hcorner _ (by simp)) fun _ _ ↦ .bind (hcorner _ (by simp)) fun _ _ ↦ ?_
  refine .bind hproject fun _ _ ↦ ?_
  exact .bind (hcorner _ (by simp)) fun _ _ ↦ .bind (hcorner _ (by simp)) fun _ _ ↦ .ok _

/-! ## Aligning to the globe -/

theorem alignGlobe_of_isEmpty (hsize : size ≠ 0)
    (h : (raw.wholeTiles size r.total).isEmpty = true) :
    alignGlobe project raw r output size = .error (.georeference .outsideExtent) := by
  have htiles : alignTiles raw size = .ok (raw.tileAligned size) :=
    if_neg fun hzero ↦ hsize (Coordinate.same_int.1 hzero)
  unfold alignGlobe
  rw [htiles]
  exact if_pos h

theorem alignGlobe_of_not_isEmpty (hsize : size ≠ 0)
    (h : (raw.wholeTiles size r.total).isEmpty = false) :
    alignGlobe project raw r output size =
      (projectedLonLat project ⟨0, 0, r.total, r.total⟩ output >>= fun lonLat ↦
        .ok ⟨⟨0, 0, r.total, r.total⟩, raw.wholeTiles size r.total, lonLat⟩) := by
  have htiles : alignTiles raw size = .ok (raw.tileAligned size) :=
    if_neg fun hzero ↦ hsize (Coordinate.same_int.1 hzero)
  unfold alignGlobe
  rw [htiles]
  exact if_neg (Bool.eq_false_iff.1 h)

/-- Data that share a pixel with the pyramid have boxes on the globe, unless the corners of the
pyramid are beyond all numbers or the globe is of another body. -/
theorem alignGlobe_cases (project : Projector α) (output : Georeference α) (hsize : size ≠ 0)
    (h : (raw.wholeTiles size r.total).isEmpty = false) :
    (∃ lonLat, alignGlobe project raw r output size =
        .ok ⟨⟨0, 0, r.total, r.total⟩, raw.wholeTiles size r.total, lonLat⟩) ∨
      ∃ e, Unprojected project ⟨0, 0, r.total, r.total⟩ output e ∧
        alignGlobe project raw r output size = .error e := by
  rw [alignGlobe_of_not_isEmpty hsize h]
  rcases hlonLat : projectedLonLat project ⟨0, 0, r.total, r.total⟩ output with e | lonLat
  · exact .inr ⟨e, failsOnly_projectedLonLat project _ output e hlonLat, rfl⟩
  · exact .inl ⟨lonLat, rfl⟩

end

/-- Zero is a number, so only the far edges of the pyramid can be beyond all of them. -/
theorem total_outOfRange {project : Projector Float} {output : Georeference Float} {total : Int}
    (hproject : (project output.crs output.crs.geodetic).isSome = true) {e : Fault}
    (h : Unprojected project ⟨0, 0, total, total⟩ output e) :
    e = .value .outOfRange ∧
      (Scalar.ofWhole total : Except Fault Float) = .error (.value .outOfRange) := by
  cases h with
  | outOfRange n hn hrange =>
    simp only [List.mem_cons, List.not_mem_nil, or_false] at hn
    rcases hn with rfl | rfl | rfl | rfl
    case inl | inr.inl => cases hrange
    all_goals exact ⟨rfl, hrange⟩
  | unrelatedBodies hnone =>
    rw [hnone] at hproject
    cases hproject

/-- The boxes on the globe hold whole tiles around all data that can be seen.  There are none
exactly when the data, which begin before the far edges, share no pixel with the pyramid.
Otherwise the box of the data holds all shared pixels, lies inside the pyramid, begins at multiples
of the size of a tile, ends at multiples or at the far edges, and is the smallest such box.

These are the boxes returned, unless the size of the pyramid is beyond all doubles.  The profile
has no grid of that size, so they are returned on the grid of the profile.  The canvas of a
composition begins before the far edges, if it has pixels. -/
theorem align_globe_to_whole_tiles (project : Projector Float) {profile : Profile}
    (output : Georeference Float) {size : Int} {raw : PixelBox} {r : Resolution}
    (hkml : profile.isKmlLike = false) (ht : 1 ≤ r.total) (hsize : 1 ≤ size)
    (hraw : ∃ x y, raw.Holds x y) (hx : raw.minX < r.total) (hy : raw.minY < r.total)
    (hproject : (project output.crs output.crs.geodetic).isSome = true) :
    ((∃ g, align project profile raw r output size = .error (.georeference g)) ↔
      ∀ x y, ¬ (raw.Holds x y ∧ (⟨0, 0, r.total, r.total⟩ : PixelBox).Holds x y)) ∧
    ((∃ x y, raw.Holds x y ∧ (⟨0, 0, r.total, r.total⟩ : PixelBox).Holds x y) →
      ∃ whole data : PixelBox, whole = ⟨0, 0, r.total, r.total⟩ ∧
        (∀ x y, raw.Holds x y ∧ whole.Holds x y → data.Holds x y) ∧ data.Inside whole ∧
        data.IsTiled size r.total ∧
        (∀ other : PixelBox, other.IsTiled size r.total →
          (∀ x y, raw.Holds x y ∧ whole.Holds x y → other.Holds x y) → data.Inside other) ∧
        ((∃ lonLat, align project profile raw r output size = .ok ⟨whole, data, lonLat⟩) ∨
          align project profile raw r output size = .error (.value .outOfRange) ∧
            (Scalar.ofWhole r.total : Except Fault Float) = .error (.value .outOfRange) ∧
            2 ^ 1023 ≤ r.total ∧
            ∀ datum, OutputGrid.ofProfile profile datum r ≠ .ok output)) ∧
    (1 ≤ r.aspectRatio → ∀ engine settings sources log composition log',
      Composition.compose engine settings output r sources log = .ok composition log' →
      composition.canvas.box.BeginsBefore r.total r.total) := by
  have halign : align project profile raw r output size = alignGlobe project raw r output size :=
    if_neg (by rw [hkml]; decide)
  have hpos : 0 < size := by omega
  have hzero : size ≠ 0 := by omega
  have hshare := PixelBox.isEmpty_wholeTiles_iff hpos (PixelBox.exists_holds_iff.1 hraw) hx hy
  rw [halign, ← PixelBox.isEmpty_crop_iff]
  refine ⟨?none, ?shared, fun ha _ _ _ _ _ _ ↦ Composition.beginsBefore_of_compose ht ha⟩
  case none =>
    constructor
    · rintro ⟨g, hg⟩
      by_contra hne
      have hdata := Bool.eq_false_iff.2 fun h ↦ hne (hshare.1 h)
      rcases alignGlobe_cases project output hzero hdata with ⟨_, hok⟩ | ⟨e, he, herror⟩
      · rw [hok] at hg
        cases hg
      · rw [herror, (total_outOfRange hproject he).1] at hg
        cases hg
    · exact fun hempty ↦ ⟨_, alignGlobe_of_isEmpty hzero (hshare.2 hempty)⟩
  case shared =>
    rintro ⟨x, y, hxy⟩
    have hvisible := (PixelBox.mem_crop.2 hxy).not_isEmpty
    have hdata : (raw.wholeTiles size r.total).isEmpty = false :=
      (PixelBox.holds_wholeTiles hpos (PixelBox.mem_crop.2 hxy)).not_isEmpty
    refine ⟨_, raw.wholeTiles size r.total, rfl,
      fun x y hxy ↦ PixelBox.holds_wholeTiles hpos (PixelBox.mem_crop.2 hxy),
      (PixelBox.inside_crop hdata).2, PixelBox.isTiled_wholeTiles hdata,
      fun other hother hholds ↦ PixelBox.wholeTiles_inside hpos hvisible hdata hother
        fun x y hxy ↦ hholds x y (PixelBox.mem_crop.1 hxy), ?_⟩
    rcases alignGlobe_cases project output hzero hdata with hok | ⟨e, he, herror⟩
    · exact .inl hok
    obtain ⟨rfl, hrange⟩ := total_outOfRange hproject he
    refine .inr ⟨herror, hrange, ?_, ?_⟩
    · by_contra hsmall
      rw [Double.ofWhole_eq_ok (le_refl 1023) (by omega)] at hrange
      cases hrange
    · intro datum hgrid
      obtain ⟨n, hn⟩ := OutputGrid.exists_of_ofProfile hgrid
      rw [hrange] at hn
      cases hn

/-- Data that lie half beyond the left edge of a pyramid keep the tiles of the other half; the last
row of tiles is cut. -/
theorem align_globe_to_whole_tiles_across_left_edge :
    ∃ data lonLat, align Crs.transform .tms ⟨-300, 900, 700, 950⟩ ⟨1000, 1⟩
        ⟨⟨"", [], Datum.wgs84, true⟩, Affine.identity⟩ 256 =
        .ok ⟨⟨0, 0, 1000, 1000⟩, data, lonLat⟩ ∧
      data.IsTiled 256 1000 ∧ data.Holds 0 900 ∧ data.Holds 699 949 ∧
      data.Inside ⟨0, 768, 768, 1000⟩ := by
  have hproject : (Crs.transform ⟨"", [], Datum.wgs84, true⟩
      (Crs.geodetic ⟨"", [], Datum.wgs84, true⟩)).isSome = true := by decide +kernel
  have hshared : ∃ x y, (⟨-300, 900, 700, 950⟩ : PixelBox).Holds x y ∧
      (⟨0, 0, 1000, 1000⟩ : PixelBox).Holds x y := ⟨0, 900, by decide⟩
  have hraw : ∃ x y, (⟨-300, 900, 700, 950⟩ : PixelBox).Holds x y := ⟨0, 900, by decide⟩
  obtain ⟨whole, data, rfl, hholds, -, htiled, hleast, hresult⟩ :=
    (align_globe_to_whole_tiles Crs.transform ⟨⟨"", [], Datum.wgs84, true⟩, Affine.identity⟩
      (r := ⟨1000, 1⟩) (rfl : Profile.isKmlLike .tms = false) (by decide)
      (by decide : (1 : Int) ≤ 256) hraw (by decide) (by decide) hproject).2.1 hshared
  have hinside : data.Inside ⟨0, 768, 768, 1000⟩ := by
    refine hleast _ ⟨by decide, by decide, .inl (by decide), .inr rfl⟩ ?_
    intro x y hxy
    simp only [PixelBox.Holds] at hxy ⊢
    omega
  rcases hresult with ⟨lonLat, hok⟩ | ⟨-, -, hgreat, -⟩
  · exact ⟨data, lonLat, hok, htiled, hholds 0 900 (by decide), hholds 699 949 (by decide), hinside⟩
  · exact absurd hgreat (by decide +kernel)

/-- A pyramid of `2 ^ 1024` rows shows the first pixel, but has no boxes around its tile. -/
theorem align_globe_out_of_range :
    (⟨0, 0, 1, 1⟩ : PixelBox).Holds 0 0 ∧ (⟨0, 0, 2 ^ 1024, 2 ^ 1024⟩ : PixelBox).Holds 0 0 ∧
      Profile.tms.isGeoreferenced = true ∧ Profile.tms.isKmlLike = false ∧
      (0 : Int) < 2 ^ 1024 ∧
      ∀ bounds : PyramidBounds Float, align Crs.transform .tms ⟨0, 0, 1, 1⟩ ⟨2 ^ 1024, 1⟩
        ⟨⟨"", [], Datum.wgs84, true⟩, Affine.identity⟩ 256 ≠ .ok bounds := by
  have htotal : (0 : Int) < 2 ^ 1024 := by decide +kernel
  have hvisible : (⟨0, 0, 2 ^ 1024, 2 ^ 1024⟩ : PixelBox).Holds 0 0 := by decide +kernel
  refine ⟨by decide, hvisible, rfl, rfl, htotal, ?_⟩
  intro bounds hbounds
  obtain ⟨hwhole, -, hlonLat⟩ := boxes_of_alignGlobe hbounds
  have hrange : (Scalar.ofWhole (2 ^ 1024) : Except Fault Float) = .error (.value .outOfRange) :=
    if_neg (by rw [isFinite_two_pow]; decide)
  obtain ⟨minX, -, hlonLat⟩ := exists_of_bind_eq_ok hlonLat
  obtain ⟨minY, -, hlonLat⟩ := exists_of_bind_eq_ok hlonLat
  obtain ⟨toLonLat, -, hlonLat⟩ := exists_of_bind_eq_ok hlonLat
  obtain ⟨maxX, hmaxX, -⟩ := exists_of_bind_eq_ok hlonLat
  rw [hwhole] at hmaxX
  cases hrange.symm.trans hmaxX

end PyramidBounds

end QuadMosaic
