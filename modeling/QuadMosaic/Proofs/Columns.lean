import QuadMosaic.Proofs.Checks
import QuadMosaic.Proofs.Faults
import QuadMosaic.Proofs.Region
import QuadMosaic.Pyramid.Estimate
import QuadMosaic.Pyramid.OutputGrid

/-!
# Columns to divide by

The size of a pixel is a length divided by the columns or the rows of a pyramid.  Valid options see
to the rows: the resolution is never estimated below a floor, and one that is given has to be
positive.  They do not see to the columns.  The aspect ratio is checked by itself, and there are
columns exactly when it is at most the resolution; then nothing is divided by zero.
-/

namespace QuadMosaic

theorem le_of_foldlM {β ε : Type} {f : Int → β → Except ε Int} {l : List β} {n m : Int}
    (h : ∀ n b m, f n b = .ok m → n ≤ m) (hm : l.foldlM f n = .ok m) : n ≤ m :=
  keeps_of_foldlM (P := (n ≤ ·)) (fun k b _ j hj hn ↦ hn.trans (h k b j hj)) hm le_rfl

namespace Resolution

section

variable {α : Type} {rule : ResolutionRule α} {profile : Profile} {r : Resolution}

theorem le_of_greatestOf {β : Type} {value : β → Except Fault Int} {start n : Int}
    {items : List β} (h : greatestOf value start items = .ok n) : start ≤ n := by
  refine le_of_foldlM (fun k item m hm ↦ ?_) h
  obtain ⟨j, -, hm⟩ := exists_of_bind_eq_ok hm
  cases hm
  exact le_max_left k j

variable [Scalar α]

/-- A source never lowers the resolution. -/
theorem le_of_raiseFor {total n : Int} {source : RasterSource α} {g : Georeference α}
    (h : (raiseFor rule profile total source g : Except Fault Int) = .ok n) : total ≤ n := by
  obtain ⟨target, -, h⟩ := exists_of_bind_eq_ok h
  exact le_of_greatestOf h

/-- The resolution that is estimated: the one given, or at least the floor. -/
theorem of_estimate {sources : List (RasterSource α × Georeference α)} {aspectRatio : Int}
    {override : Option Int}
    (h : estimate rule profile sources aspectRatio override = (.ok r : Except Fault Resolution)) :
    r.aspectRatio = aspectRatio ∧
      (override = some r.total ∨ override = none ∧ least ≤ r.total) := by
  obtain ⟨total, htotal, h⟩ := exists_of_bind_eq_ok h
  cases h
  refine ⟨rfl, ?_⟩
  cases override with
  | some n => exact .inl rfl
  | none => exact .inr ⟨rfl, le_of_foldlM (fun k item m hm ↦ le_of_raiseFor hm) htotal⟩

end

/-- A pyramid has columns exactly when its pixels are no wider than it is high. -/
theorem one_le_columns_iff {r : Resolution} (ha : 1 ≤ r.aspectRatio) :
    1 ≤ Int.fdiv r.total r.aspectRatio ↔ r.aspectRatio ≤ r.total := by
  constructor
  · intro h
    rw [Int.fdiv_eq_ediv_of_nonneg _ (by omega)] at h
    have := (Int.le_ediv_iff_mul_le (by omega)).1 h
    omega
  · exact fun h ↦ (isProper_of_le ha h).columns

end Resolution

namespace OutputGrid

/-- Why a profile on the globe has no grid for a resolution. -/
inductive Obstacle (r : Resolution) : Fault → Prop
  | outOfRange : Obstacle r (.value .outOfRange)
  | divisionByZero : ¬ r.IsProper → Obstacle r (.value .divisionByZero)
  | invalidParameters (params : Fields) : Obstacle r (.projection (.invalidParameters params))

section

variable {α : Type} [Scalar α] [LawfulScalar α] {r : Resolution}

theorem failsOnly_share (length : α) {parts : Int} (h : r.IsProper → parts ≠ 0) :
    FailsOnly (Obstacle r) (share length parts) := by
  refine .bind ((FailsOnly.ofWhole α parts).mono fun e he ↦ he ▸ .outOfRange) fun x hx ↦ ?_
  obtain rfl := Scalar.eq_ofInt_of_ofWhole hx
  rw [LawfulScalar.eq_ofInt_zero]
  split
  case isTrue hzero => exact .error (.divisionByZero fun hr ↦ h hr (of_decide_eq_true hzero))
  case isFalse => exact .ok _

omit [Scalar α] [LawfulScalar α] in
theorem failsOnly_columns : FailsOnly (Obstacle r) r.columns := by
  by_cases ha : r.aspectRatio = 0
  · have hzero : r.columns = .error (.value .divisionByZero) := if_pos (Coordinate.same_int.2 ha)
    rw [hzero]
    exact .error (.divisionByZero fun hr ↦ by have := hr.aspectRatio; omega)
  · rw [Resolution.columns_eq_ok ha]
    exact .ok _

theorem columns_ne_zero {columns : Int} (h : r.columns = .ok columns) (hr : r.IsProper) :
    columns ≠ 0 := by
  have ha := hr.aspectRatio
  have hc := hr.columns
  rw [Resolution.columns_eq_ok (by omega)] at h
  cases h
  omega

theorem rows_ne_zero (hr : r.IsProper) : r.rows ≠ 0 := by
  have ht := hr.total
  unfold Resolution.rows
  omega

theorem failsOnly_build (projection : Fields) (datum : Datum) :
    FailsOnly (Obstacle r) (ReferenceSystem.build projection datum : Except Fault Crs) :=
  (FailsOnly.build projection datum).mono fun _ ⟨params, he⟩ ↦ he ▸ .invalidParameters params

variable (α) in
theorem failsOnly_geographic (datum : Datum) (north span : Int) :
    FailsOnly (Obstacle r) (geographic datum r north span : Except Fault (Georeference α)) := by
  refine .bind failsOnly_columns fun columns hcolumns ↦ ?_
  refine .bind (failsOnly_share _ (columns_ne_zero hcolumns)) fun _ _ ↦ ?_
  refine .bind (failsOnly_share _ rows_ne_zero) fun _ _ ↦ ?_
  exact .bind (failsOnly_build _ _) fun _ _ ↦ .ok _

variable (α) in
theorem failsOnly_webMap (datum : Datum) :
    FailsOnly (Obstacle r) (webMap datum r : Except Fault (Georeference α)) := by
  refine .bind ((FailsOnly.toDouble _).mono fun e he ↦ he ▸ .outOfRange) fun _ _ ↦ ?_
  refine .bind failsOnly_columns fun columns hcolumns ↦ ?_
  refine .bind (failsOnly_share _ (columns_ne_zero hcolumns)) fun _ _ ↦ ?_
  refine .bind (failsOnly_share _ rows_ne_zero) fun _ _ ↦ ?_
  exact .bind (failsOnly_build _ _) fun _ _ ↦ .ok _

/-- The grid of a profile on the globe is only missed for one of these reasons. -/
theorem failsOnly_ofProfile {profile : Profile} (hp : profile.isGeoreferenced = true)
    (datum : Datum) :
    FailsOnly (Obstacle r) (ofProfile profile datum r : Except Fault (Georeference α)) := by
  cases profile with
  | kml | gigapan | tms | uniview | celestia => exact failsOnly_geographic α datum _ _
  | gmap => exact failsOnly_webMap α datum
  | none | gigapanNoproj => cases hp

end

end OutputGrid

/-- On a pyramid with columns and rows, the edges of a box on the globe are only missed beyond all
numbers. -/
theorem PyramidBounds.failsOnly_linearLonLat (α : Type) [Scalar α] [LawfulScalar α]
    {r : Resolution} (h : r.IsProper) (box : PixelBox) :
    FailsOnly (· = .value .outOfRange) (linearLonLat box r : Except Fault (LonLatBox α)) := by
  intro e he
  rcases within_linearLonLat α box h with ⟨lonLat, hok⟩ | ⟨herror, -⟩
  · cases hok.symm.trans he
  · exact (Except.error.inj (herror.symm.trans he)).symm

namespace MosaicOptions

open Resolution (estimate)

/-- Valid options give a pyramid with rows.  It has columns exactly when the aspect ratio is at most
the resolution; then neither its grid nor the edges of a box on the globe divide by zero. -/
theorem grid_of_valid_options {α : Type} [Scalar α] [LawfulScalar α] {o : MosaicOptions}
    {rule : ResolutionRule α} {sources : List (RasterSource α × Georeference α)} {r : Resolution}
    (hvalid : o.validate = .ok ()) (hp : o.profile.isGeoreferenced = true)
    (hr : estimate rule o.profile sources o.aspectRatio o.globalResolution =
      (.ok r : Except Fault Resolution)) :
    1 ≤ r.total ∧ ∃ columns, r.columns = .ok columns ∧
      (1 ≤ columns ↔ o.aspectRatio ≤ r.total) ∧
      (o.aspectRatio ≤ r.total →
        (∀ datum, (OutputGrid.ofProfile o.profile datum r : Except Fault (Georeference α)) ≠
          .error (.value .divisionByZero)) ∧
        ∀ box, (PyramidBounds.linearLonLat box r : Except Fault (LonLatBox α)) ≠
          .error (.value .divisionByZero)) := by
  have hpasses := validate_eq_ok_iff.1 hvalid
  have ha := pos_of_isPowerOfTwo hpasses.aspectRatio
  obtain ⟨hratio, htotal⟩ := Resolution.of_estimate hr
  rw [← hratio] at ha ⊢
  have hrows : 1 ≤ r.total := by
    rcases htotal with hgiven | ⟨-, hleast⟩
    · exact hpasses.globalResolution _ hgiven
    · exact le_trans (by decide) hleast
  refine ⟨hrows, _, Resolution.columns_eq_ok (by omega), Resolution.one_le_columns_iff ha, ?_⟩
  intro hle
  have hproper := Resolution.isProper_of_le ha hle
  constructor
  · intro datum he
    cases OutputGrid.failsOnly_ofProfile hp datum _ he with
    | divisionByZero hnot => exact hnot hproper
  · intro box he
    cases PyramidBounds.failsOnly_linearLonLat α hproper box _ he

/-- Options for one image, with pixels twice as wide as high. -/
def wide (globalResolution : Option Int) : MosaicOptions :=
  { inputs := [⟨"", ["a.tif"]⟩], aspectRatio := 2, globalResolution }

/-- An image on the globe with its place. -/
def scene : RasterSource Float × Georeference Float :=
  (⟨⟨"", ["a.tif"]⟩, .ofBandCount 1, .uint8, 4, 4, 1, none, none, Affine.identity⟩,
    ⟨⟨"", [], Datum.wgs84, true⟩, Affine.identity⟩)

/-- The least pyramid that is ever estimated, with half as many columns as rows. -/
theorem grid_of_valid_options_at_least_resolution :
    (wide none).validate = .ok () ∧
    estimate (fun _ _ _ _ ↦ .ok 0) .kml [scene] 2 none =
      (.ok ⟨1024, 2⟩ : Except Fault Resolution) ∧
    ∃ columns, (⟨1024, 2⟩ : Resolution).columns = .ok columns ∧ 1 ≤ columns ∧
      ∀ datum, (OutputGrid.ofProfile .kml datum (⟨1024, 2⟩ : Resolution) :
        Except Fault (Georeference Float)) ≠ .error (.value .divisionByZero) := by
  have hvalid : (wide none).validate = .ok () := rfl
  have hr : estimate (fun _ _ _ _ ↦ .ok 0) .kml [scene] 2 none =
      (.ok ⟨1024, 2⟩ : Except Fault Resolution) := rfl
  obtain ⟨-, columns, hcolumns, hpos, hdivides⟩ := grid_of_valid_options hvalid rfl hr
  exact ⟨hvalid, hr, columns, hcolumns, hpos.2 (by decide), (hdivides (by decide)).1⟩

/-- A resolution of one is valid beside an aspect ratio of two, and leaves no columns to divide
by. -/
theorem valid_options_without_columns :
    (wide (some 1)).validate = .ok () ∧
    estimate (fun _ _ _ _ ↦ .ok 0) .kml [scene] 2 (some 1) =
      (.ok ⟨1, 2⟩ : Except Fault Resolution) ∧
    (⟨1, 2⟩ : Resolution).columns = .ok 0 ∧
    (OutputGrid.ofProfile .kml Datum.wgs84 (⟨1, 2⟩ : Resolution) :
      Except Fault (Georeference Float)) = .error (.value .divisionByZero) ∧
    (PyramidBounds.linearLonLat (⟨0, 0, 1, 1⟩ : PixelBox) ⟨1, 2⟩ :
      Except Fault (LonLatBox Float)) = .error (.value .divisionByZero) :=
  ⟨rfl, rfl, rfl, rfl, rfl⟩

end MosaicOptions

end QuadMosaic
