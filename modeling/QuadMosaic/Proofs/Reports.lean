import QuadMosaic.Proofs.Columns
import QuadMosaic.Proofs.Members
import QuadMosaic.Proofs.Output
import QuadMosaic.Proofs.QuadTree

/-!
# Reports are valid

The report of a run obeys its schema, part by part.  What the schema asks of a number is settled far
from the report: a box is never narrower than nothing, a latitude was kept between the poles, a
checked resolution and aspect ratio are at least one, and a tree has at least its root.  The parts
about the globe are null together, when the profile has no place on it.
-/

namespace QuadMosaic

namespace Schema

variable {schema : Schema} {value : Json}

/-! ## Open objects and tables -/

/-- A member that an open object may have: one that its schema does not know, or a valid one. -/
def Permits (members : List (String × Schema)) (f : String × Json) : Prop :=
  members.lookup f.1 = none ∨ Admits members f

section

variable {kinds : List Kind} {required : List String} {members : List (String × Schema)}
  {fields : Fields} {key : String}

theorem Permits.of_lookup (hkey : members.lookup key = some schema) (h : schema.Accepts value) :
    Permits members (key, value) :=
  .inr ⟨schema, hkey, h⟩

/-- An open object is valid when no member is missing and those that are known are valid. -/
theorem accepts_openObject (hobject : Kind.object ∈ kinds) (hkeys : (members.map (·.1)).Nodup)
    (hrequired : ∀ k ∈ required, Fields.has fields k) (hfields : ∀ f ∈ fields, Permits members f) :
    (openObject kinds required members).Accepts (.obj fields) := by
  have hmembers : memberViolations members (.obj fields) = [] := by
    refine memberViolations_eq_nil_iff.2 fun m hm v hv ↦ ?_
    rcases hfields _ (Fields.mem_of_get? hv) with hunknown | ⟨schema, hlookup, haccepts⟩
    · exact absurd (List.lookup_eq_none_iff.1 hunknown m hm) (by simp)
    · have hsame := List.inj_on_of_nodup_map hkeys hm (mem_of_lookup hlookup) rfl
      rw [hsame]
      exact haccepts
  have hown : ownCauses kinds none required false none none none (.obj fields) = [] := by
    refine ownCauses_eq_nil_iff.2 ⟨.inr (List.any_eq_true.2 ⟨_, hobject, rfl⟩), by simp, ?_,
      by simp, by simp, by simp, by simp⟩
    rintro _ ⟨⟩
    exact hrequired
  simp [Accepts, openObject, violations, hown, hmembers, otherViolations, itemViolations]

theorem accepts_openObject_null (hnull : Kind.null ∈ kinds) :
    (openObject kinds required members).Accepts .null := by
  have hown : ownCauses kinds none required false none none none .null = [] :=
    ownCauses_eq_nil_iff.2 ⟨.inr (List.any_eq_true.2 ⟨_, hnull, rfl⟩), by simp, by simp, by simp,
      by simp, by simp, by simp⟩
  have hmembers : memberViolations members .null = [] := by
    induction members with
    | nil => rfl
    | cons m members ih => simp [memberViolations, ih]
  simp [Accepts, openObject, violations, hown, hmembers, otherViolations, itemViolations]

end

theorem accepts_textTable {fields : Fields} (h : ∀ f ∈ fields, ∃ s, f.2 = .str s) :
    textTable.Accepts (.obj fields) := by
  have hothers : otherViolations (some (ofKinds [.string])) fields = [] := by
    refine List.flatMap_eq_nil_iff.2 fun f hf ↦ ?_
    obtain ⟨s, hs⟩ := h f hf
    have haccepts : (ofKinds [.string]).Accepts f.2 :=
      accepts_ofKinds_iff.2 (.inr (by rw [hs]; rfl))
    exact congrArg _ haccepts
  simpa [Accepts, textTable, violations, memberViolations, itemViolations, ownCauses, Kind.holds]
    using hothers

/-! ## Texts and numbers -/

theorem accepts_text {kinds : List Kind} (hkinds : Kind.string ∈ kinds) (s : String) :
    (ofKinds kinds).Accepts (.str s) :=
  accepts_ofKinds_iff.2 (.inr (List.any_eq_true.2 ⟨_, hkinds, rfl⟩))

theorem accepts_integer (n : Int) : (ofKinds [.integer]).Accepts (.int n) :=
  accepts_ofKinds_iff.2 (.inr rfl)

theorem accepts_naturalNumber {n : Int} (h : 0 ≤ n) : naturalNumber.Accepts (.int n) := by
  refine accepts_number_iff.2 ⟨.inr rfl, ?_, by simp, by simp⟩
  rintro b ⟨⟩
  exact decide_eq_false (Int.not_lt.2 h)

end Schema

namespace Scalar

variable {α : Type} [Scalar α] {lo hi x : α}

theorem clamp_not_lt (hlo : lt lo lo = false) (hhi : lt hi lo = false) :
    lt (clamp lo hi x) lo = false := by
  unfold clamp
  split
  · exact hlo
  split
  · exact hhi
  case isFalse hx _ => exact Bool.eq_false_iff.2 hx

theorem not_lt_clamp (hlo : lt hi lo = false) (hhi : lt hi hi = false) :
    lt hi (clamp lo hi x) = false := by
  unfold clamp
  split
  · exact hlo
  split
  · exact hhi
  case isFalse hx => exact Bool.eq_false_iff.2 hx

end Scalar

/-! ## The parts of a report -/

open Schema

/-- A latitude that was kept between the poles is one. -/
theorem PyramidBounds.accepts_clampLatitude (x : Float) :
    latitude.Accepts (.real (clampLatitude x)) := by
  have hsouth : Scalar.lt (Scalar.ofInt (-90) : Float) (Scalar.ofInt (-90)) = false := by
    decide +kernel
  have hacross : Scalar.lt (Scalar.ofInt 90 : Float) (Scalar.ofInt (-90)) = false := by
    decide +kernel
  have hnorth : Scalar.lt (Scalar.ofInt 90 : Float) (Scalar.ofInt 90) = false := by
    decide +kernel
  refine accepts_number_iff.2 ⟨.inr rfl, ?_, ?_, by simp⟩
  · rintro b ⟨⟩
    exact Scalar.clamp_not_lt hsouth hacross
  · rintro b ⟨⟩
    exact Scalar.not_lt_clamp hacross hnorth

/-- No box is narrower or lower than nothing. -/
theorem PixelBox.accepts_toJson (b : PixelBox) : pixelBoxReport.Accepts b.toJson := by
  refine accepts_openObject (by decide) (by decide) (by simp [Fields.has, Fields.get?]) ?_
  simp only [List.forall_mem_cons]
  exact ⟨.of_lookup rfl (accepts_integer _), .of_lookup rfl (accepts_integer _),
    .of_lookup rfl (accepts_naturalNumber (le_max_left _ _)),
    .of_lookup rfl (accepts_naturalNumber (le_max_left _ _)), by simp⟩

/-- The latitudes of a box were kept between the poles. -/
def LonLatBox.IsClamped (b : LonLatBox Float) : Prop :=
  ∃ south north, b.south = PyramidBounds.clampLatitude south ∧
    b.north = PyramidBounds.clampLatitude north

theorem LonLatBox.accepts_toJson {b : LonLatBox Float} (h : b.IsClamped) :
    lonLatBoxReport.Accepts b.toJson := by
  obtain ⟨south, north, hsouth, hnorth⟩ := h
  refine accepts_openObject (by decide) (by decide)
    (by simp [Fields.has, Fields.get?, LonLatBox.toFields]) ?_
  simp only [LonLatBox.toFields, LonLatBox.map, hsouth, hnorth, List.forall_mem_cons]
  exact ⟨.of_lookup rfl (accepts_real _),
    .of_lookup rfl (PyramidBounds.accepts_clampLatitude south),
    .of_lookup rfl (accepts_real _),
    .of_lookup rfl (PyramidBounds.accepts_clampLatitude north), by simp⟩

namespace PyramidBounds

theorem accepts_toJson {b : PyramidBounds Float} (h : b.lonLat.IsClamped) :
    boundsReport.Accepts b.toJson := by
  refine accepts_openObject (by decide) (by decide) (by simp [Fields.has, Fields.get?]) ?_
  simp only [List.forall_mem_cons]
  exact ⟨.of_lookup rfl b.total.accepts_toJson, .of_lookup rfl b.data.accepts_toJson,
    .of_lookup rfl (LonLatBox.accepts_toJson h), by simp⟩

theorem isClamped_of_linearLonLat {box : PixelBox} {r : Resolution} {b : LonLatBox Float}
    (h : linearLonLat box r = .ok b) : b.IsClamped := by
  obtain ⟨columns, -, h⟩ := exists_of_bind_eq_ok h
  obtain ⟨west, -, h⟩ := exists_of_bind_eq_ok h
  obtain ⟨south, -, h⟩ := exists_of_bind_eq_ok h
  obtain ⟨east, -, h⟩ := exists_of_bind_eq_ok h
  obtain ⟨north, -, h⟩ := exists_of_bind_eq_ok h
  cases h
  exact ⟨_, _, rfl, rfl⟩

theorem isClamped_of_projectedLonLat {project : Projector Float} {box : PixelBox}
    {output : Georeference Float} {b : LonLatBox Float}
    (h : projectedLonLat project box output = .ok b) : b.IsClamped := by
  obtain ⟨minX, -, h⟩ := exists_of_bind_eq_ok h
  obtain ⟨minY, -, h⟩ := exists_of_bind_eq_ok h
  obtain ⟨f, -, h⟩ := exists_of_bind_eq_ok h
  obtain ⟨maxX, -, h⟩ := exists_of_bind_eq_ok h
  obtain ⟨maxY, -, h⟩ := exists_of_bind_eq_ok h
  cases h
  exact ⟨_, _, rfl, rfl⟩

/-- The box of a pyramid on the globe ends at the poles. -/
theorem isClamped_of_align {project : Projector Float} {profile : Profile} {raw : PixelBox}
    {r : Resolution} {output : Georeference Float} {size : Int} {b : PyramidBounds Float}
    (h : align project profile raw r output size = .ok b) : b.lonLat.IsClamped := by
  unfold align at h
  split at h
  case isTrue =>
    obtain ⟨columns, -, h⟩ := exists_of_bind_eq_ok h
    simp only at h
    split at h
    · cases h
    obtain ⟨total, -, h⟩ := exists_of_bind_eq_ok h
    obtain ⟨lonLat, hlonLat, h⟩ := exists_of_bind_eq_ok h
    cases h
    exact isClamped_of_linearLonLat hlonLat
  case isFalse =>
    obtain ⟨tiles, -, h⟩ := exists_of_bind_eq_ok h
    simp only at h
    split at h
    · cases h
    obtain ⟨lonLat, hlonLat, h⟩ := exists_of_bind_eq_ok h
    cases h
    exact isClamped_of_projectedLonLat hlonLat

end PyramidBounds

/-- A resolution with rows and an aspect ratio is written, and what is written is valid. -/
theorem Resolution.exists_toJson {r : Resolution} (ht : 0 < r.total) (ha : 0 < r.aspectRatio) :
    ∃ json, r.toJson = .ok json ∧ resolutionReport.Accepts json := by
  refine ⟨_, bind_of_eq_ok (columns_eq_ok (Int.ne_of_gt ha)), ?_⟩
  refine accepts_openObject (by decide) (by decide) (by simp [Fields.has, Fields.get?]) ?_
  simp only [List.forall_mem_cons]
  exact ⟨.of_lookup rfl (accepts_atLeast_one (by decide) ht),
    .of_lookup rfl (accepts_atLeast_one (by decide) ha), .of_lookup rfl (accepts_integer _),
    .of_lookup rfl (accepts_integer _), by simp⟩

theorem Path.accepts_toFields (paths : List (String × Path)) :
    textTable.Accepts (.obj (Path.toFields paths)) := by
  refine accepts_textTable fun f hf ↦ ?_
  obtain ⟨p, -, rfl⟩ := List.mem_map.1 hf
  exact ⟨_, rfl⟩

namespace MosaicResult

variable {result : MosaicResult}

theorem accepts_inputToJson (source : RasterSource Float) :
    inputReport.Accepts (inputToJson source) := by
  refine accepts_openObject (by decide) (by decide) (by simp [Fields.has, Fields.get?]) ?_
  simp only [List.forall_mem_cons]
  exact ⟨.of_lookup rfl (accepts_text (by decide) _), .of_lookup rfl (accepts_integer _),
    .of_lookup rfl (accepts_integer _), by simp⟩

/-- What the schema asks of a result. -/
structure IsReportable (result : MosaicResult) : Prop where
  writer : ∃ name, result.writer.name = .str name
  levels : ∃ n : Int, result.tree.levels = .int n ∧ 0 < n
  tileCount : 0 ≤ result.tree.tileCount
  total : ∀ p, result.placement = some p → 0 < p.resolution.total
  aspectRatio : ∀ p, result.placement = some p → 0 < p.resolution.aspectRatio
  lonLat : ∀ p, result.placement = some p → p.bounds.lonLat.IsClamped

theorem IsReportable.accepts_treeToJson (h : result.IsReportable) :
    tileTreeReport.Accepts result.treeToJson := by
  obtain ⟨name, hname⟩ := h.writer
  obtain ⟨n, hlevels, hn⟩ := h.levels
  refine accepts_openObject (by decide) (by decide)
    (by simp [Fields.has, Fields.get?, TileTree.toFields]) ?_
  simp only [TileTree.toFields, hname, hlevels, List.cons_append, List.nil_append,
    List.forall_mem_cons]
  exact ⟨.of_lookup rfl (accepts_atLeast_one (by decide) hn),
    .of_lookup rfl (accepts_text (by decide) _),
    .of_lookup rfl (accepts_naturalNumber h.tileCount),
    .of_lookup rfl (Path.accepts_toFields _), .of_lookup rfl (accepts_text (by decide) _), by simp⟩

theorem IsReportable.exists_resolutionToJson (h : result.IsReportable) :
    ∃ json, result.resolutionToJson = .ok json ∧ resolutionReport.Accepts json := by
  unfold resolutionToJson
  cases hp : result.placement with
  | none => exact ⟨.null, rfl, accepts_openObject_null (by decide)⟩
  | some p => exact Resolution.exists_toJson (h.total p hp) (h.aspectRatio p hp)

/-- The report of such a result is made, and it is valid. -/
theorem IsReportable.exists_report (h : result.IsReportable) (createdAt : String) :
    ∃ report, result.report createdAt = .ok report ∧ mosaicReport.Accepts report := by
  obtain ⟨resolution, hmade, hresolution⟩ := h.exists_resolutionToJson
  refine ⟨_, bind_of_eq_ok hmade, ?_⟩
  refine accepts_openObject (by decide) (by decide) (by simp [Fields.has, Fields.get?]) ?_
  simp only [List.forall_mem_cons]
  refine ⟨.of_lookup rfl (accepts_text (by decide) _), .of_lookup rfl (accepts_text (by decide) _),
    .of_lookup rfl ?inputs, .of_lookup rfl (accepts_text (by decide) _), .inl rfl,
    .of_lookup rfl ?datum, .of_lookup rfl hresolution, .inl rfl, .of_lookup rfl ?bounds,
    .of_lookup rfl h.accepts_treeToJson, .of_lookup rfl (Path.accepts_toFields _),
    .of_lookup rfl ?warnings, by simp⟩
  case inputs =>
    refine accepts_array (by simp) fun v hv ↦ ?_
    obtain ⟨source, -, rfl⟩ := List.mem_map.1 hv
    exact accepts_inputToJson source
  case datum =>
    cases result.placement with
    | none => exact accepts_ofKinds_iff.2 (.inr rfl)
    | some p => exact accepts_text (by decide) _
  case bounds =>
    cases hp : result.placement with
    | none => exact accepts_openObject_null (by decide)
    | some p => exact PyramidBounds.accepts_toJson (h.lonLat p hp)
  case warnings =>
    refine accepts_array (by simp) fun v hv ↦ ?_
    obtain ⟨text, -, rfl⟩ := List.mem_map.1 hv
    exact accepts_text (by decide) text

end MosaicResult

/-! ## Reports of runs -/

/-- Valid options give a pyramid with rows. -/
theorem Resolution.pos_of_estimate {rule : ResolutionRule Float} {options : MosaicOptions}
    {placed : List (RasterSource Float × Georeference Float)} {r : Resolution}
    (hvalid : options.Passes)
    (h : estimate rule options.profile placed options.aspectRatio options.globalResolution =
      (.ok r : Except Fault Resolution)) : 0 < r.total ∧ 0 < r.aspectRatio := by
  obtain ⟨hratio, htotal⟩ := of_estimate h
  refine ⟨?_, hratio ▸ MosaicOptions.pos_of_isPowerOfTwo hvalid.aspectRatio⟩
  rcases htotal with hgiven | ⟨-, hleast⟩
  · exact hvalid.globalResolution _ hgiven
  · exact lt_of_lt_of_le (by decide) hleast

/-- A tree has at least its root. -/
theorem TilePlan.length_levels_pos {job : TileJob} {source : TileSource Float} {plan : TilePlan}
    (h : ofJob .rounded job source = .ok plan) : 0 < (plan.levels.length : Int) := by
  obtain ⟨n, leaves, hlevels, -, rfl⟩ := ofJob_eq_ok_iff.1 h
  have hpos := treeLevels_pos hlevels
  rw [List.length_reverse, Tile.length_levelsUp]
  omega

namespace OpenedRun

variable {engine : Engine Float} {rule : ResolutionRule Float} {run : OpenedRun}

/-- The resolution was estimated, and the boxes were aligned to it. -/
theorem of_place {placement : Placement} {composition : Composition Float}
    {log log' : List LogRecord}
    (h : run.place engine rule log = .ok (placement, composition) log') :
    (∃ placed, Resolution.estimate rule run.options.profile placed run.options.aspectRatio
      run.options.globalResolution = (.ok placement.resolution : Except Fault Resolution)) ∧
    PyramidBounds.align engine.project run.options.profile placement.composite
      placement.resolution placement.output run.options.tileSize = .ok placement.bounds := by
  obtain ⟨resolved, -, hafter⟩ := Logging.exists_of_ofExcept_bind h
  obtain ⟨resolution, hresolution, hafter⟩ := Logging.exists_of_ofExcept_bind hafter
  obtain ⟨output, -, hafter⟩ := Logging.exists_of_ofExcept_bind hafter
  obtain ⟨range, mid, -, hafter⟩ := Action.exists_of_bind_eq_ok hafter
  obtain ⟨composed, mid', -, hafter⟩ := Action.exists_of_bind_eq_ok hafter
  obtain ⟨bounds, hbounds, hafter⟩ := Logging.exists_of_ofExcept_bind hafter
  cases hafter
  exact ⟨⟨_, hresolution⟩, hbounds⟩

theorem isReportable_of_goesThrough {s s' : Session} {result : MosaicResult}
    (hvalid : run.options.Passes) (hplan : run.writer = TileWriter.plan)
    (h : run.GoesThrough engine rule s result s') : result.IsReportable := by
  cases h with
  | plain _ _ _ htree =>
    rw [hplan] at htree
    obtain ⟨plan, hofJob, -, rfl⟩ := TileWriter.exists_of_plan htree
    exact {
      writer := ⟨_, by rw [hplan]; rfl⟩
      levels := ⟨_, rfl, TilePlan.length_levels_pos hofJob⟩
      tileCount := Int.natCast_nonneg _
      total := by simp
      aspectRatio := by simp
      lonLat := by simp }
  | placed _ hplace _ _ htree _ =>
    rw [hplan] at htree
    obtain ⟨plan, hofJob, -, rfl⟩ := TileWriter.exists_of_plan htree
    obtain ⟨⟨placed, hresolution⟩, hbounds⟩ := of_place hplace
    obtain ⟨htotal, hratio⟩ := Resolution.pos_of_estimate hvalid hresolution
    exact {
      writer := ⟨_, by rw [hplan]; rfl⟩
      levels := ⟨_, rfl, TilePlan.length_levels_pos hofJob⟩
      tileCount := Int.natCast_nonneg _
      total := by rintro _ ⟨⟩; exact htotal
      aspectRatio := by rintro _ ⟨⟩; exact hratio
      lonLat := by rintro _ ⟨⟩; exact PyramidBounds.isClamped_of_align hbounds }

end OpenedRun

namespace Mosaic

/-- Every run with the built-in writer that gives a result has a report, which obeys the schema, so
that the command never stops at it; the box of what was laid onto the canvas is as right as the
boxes that the schema describes. -/
theorem report_of_run_accepted {engine : Engine Float} {rule : ResolutionRule Float}
    {options : MosaicOptions} {given : Option TileWriter} {s s' : Session} {result : MosaicResult}
    (hplan : UsesPlan options given s)
    (h : Mosaic.run engine rule options given s = .ok result s') (createdAt : String) :
    (∃ report, result.report createdAt = .ok report ∧ mosaicReport.Accepts report) ∧
      (∀ instant, ∃ report, Program.checkedReport result instant = .ok report) ∧
      ∀ p, result.placement = some p → pixelBoxReport.Accepts p.composite.toJson := by
  obtain ⟨run, mid, hopens, -, hthrough⟩ := goesThrough_of_run h
  obtain ⟨s₁, hwriter⟩ := hopens.writer
  have hvalid := MosaicOptions.validate_eq_ok_iff.1 hopens.valid
  rw [← hopens.same] at hvalid
  have hreportable :=
    OpenedRun.isReportable_of_goesThrough hvalid (hplan.writer_eq hwriter) hthrough
  refine ⟨hreportable.exists_report createdAt, fun instant ↦ ?_,
    fun p _ ↦ p.composite.accepts_toJson⟩
  obtain ⟨report, hmade, haccepts⟩ := hreportable.exists_report (instant ++ "+00:00")
  refine ⟨report, ?_⟩
  unfold Program.checkedReport
  rw [bind_of_eq_ok hmade, (check_eq_none_iff _ _).2 haccepts]
  rfl

/-- An image on the globe has a valid report, which tells its boxes, and so has a single image
without a place there. -/
theorem report_of_run_accepted_of_two_images :
    (∃ result s' report p, Mosaic.run spotEngine (fun _ _ _ _ ↦ .ok 0) spotOptions
        (some TileWriter.plan) {} = .ok result s' ∧
      result.placement = some p ∧ p.resolution = ⟨16, 1⟩ ∧ p.bounds.total = ⟨0, 0, 16, 16⟩ ∧
      p.bounds.data = ⟨0, 0, 8, 8⟩ ∧
      result.report "" = .ok report ∧ mosaicReport.Accepts report) ∧
    ∃ result s' report, Mosaic.run zeroEngine (fun _ _ _ _ ↦ .ok 0)
        { MosaicOptions.wide none with profile := .none } (some TileWriter.plan) {} =
          .ok result s' ∧
      result.placement = none ∧ result.report "" = .ok report ∧
      mosaicReport.Accepts report := by
  constructor
  case left =>
    obtain ⟨result, s', hrun, ⟨p, hp, hresolution, htotal, hdata⟩, -⟩ := exists_run_spotOptions
    obtain ⟨report, hmade, haccepts⟩ := (report_of_run_accepted (.given {}) hrun "").1
    exact ⟨result, s', report, p, hrun, hp, hresolution, htotal, hdata, hmade, haccepts⟩
  case right =>
    have hplain : (match Mosaic.run zeroEngine (fun _ _ _ _ ↦ .ok 0)
        { MosaicOptions.wide none with profile := .none } (some TileWriter.plan) {} with
        | .ok result _ => result.placement.isNone
        | .error _ _ => false) = true := by
      decide +kernel
    cases h : Mosaic.run zeroEngine (fun _ _ _ _ ↦ .ok 0)
        { MosaicOptions.wide none with profile := .none } (some TileWriter.plan) {} with
    | error e s' =>
      rw [h] at hplain
      cases hplain
    | ok result s' =>
      rw [h] at hplain
      obtain ⟨report, hmade, haccepts⟩ := (report_of_run_accepted (.given {}) h "").1
      exact ⟨result, s', report, rfl, Option.isNone_iff_eq_none.1 hplain, hmade, haccepts⟩

end Mosaic

end QuadMosaic
