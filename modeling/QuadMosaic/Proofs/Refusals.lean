import QuadMosaic.Proofs.Checks
import QuadMosaic.Proofs.Stages

/-!
# Refusals after the check

Several stages of a run refuse options that they cannot use: bounds for many images, a ball without
a radius, a profile without a pyramid, normalising without a range, a viewer without a module name.
None of these refusals is ever met in a run.  What a stage asks for was checked before, or follows
from how the run calls it: a range is observed exactly when it is needed, the box on the globe is
there for the profiles that need it, and a run without a place on the globe never asks for a grid.

Options are only refused later when the writer they name cannot be had, when no source has a pixel
with data, or by a writer of another package.
-/

namespace QuadMosaic

namespace RaisesOnly

variable {β : Type} {P : Fault → Prop}

theorem task {r : Except Fault β} (h : FailsOnly P r) : RaisesOnly P (Task.ofExcept r) :=
  lift (fun _ ↦ rfl) (fun _ ↦ rfl) h

theorem onFiles {action : Writing β} (h : RaisesOnly P action) :
    RaisesOnly P (Task.onFiles action) := by
  intro s e s' he
  unfold Task.onFiles at he
  split at he
  case h_1 => cases he
  case h_2 e' files haction =>
    cases he
    exact h s.files e files haction

theorem ofLogging {action : Logging β} (h : RaisesOnly P action) :
    RaisesOnly P (Task.ofLogging action) := by
  intro s e s' he
  unfold Task.ofLogging at he
  split at he
  case h_1 => cases he
  case h_2 e' log haction =>
    cases he
    exact h s.log e log haction

end RaisesOnly

namespace OpenedRun

variable {engine : Engine Float} {run : OpenedRun}

/-- No stage refuses options, as the run calls it. -/
structure StagesClear (engine : Engine Float) (run : OpenedRun) : Prop where
  datum : NeverRefuses
    (run.options.georeference.datum.datum run.options.georeference.sphereRadius)
  georeferences : NeverRefuses (run.options.georeference.resolve run.sources)
  resolution : run.options.profile.isGeoreferenced = true → ∀ transfer x y,
    NeverRefuses (Resolution.geodetic engine.project run.options.profile transfer x y)
  grid : run.options.profile.isGeoreferenced = true → ∀ datum (resolution : Resolution),
    NeverRefuses (OutputGrid.ofProfile run.options.profile datum resolution :
      Except Fault (Georeference Float))
  /-- Composing gets the range that the first pass found. -/
  composition : ∀ range log log', run.range engine log = .ok range log' →
    ∀ output resolution placed, RaisesOnly Fault.NotConfig
      (Composition.compose engine (run.composeSettings range) output resolution placed)
  adjustment : ∀ range log log', run.range engine log = .ok range log' →
    ∀ (source : RasterSource Float) pixels channel colorBands,
      NeverRefuses (source.adjust pixels run.options.pixels channel colorBands range)
  /-- The viewer of a pyramid on the globe is told the box of it. -/
  viewer : ∀ box, (run.options.profile.isGeoreferenced = true → box.isSome = true) →
    NeverRefuses (ViewerConfig.ofProfile run.options.profile run.options.viewerSettings box)

theorem isSome_of_range {range : Option (PixelRange Float)} {log log' : List LogRecord}
    (h : run.range engine log = .ok range log') :
    run.options.pixels.normalize = true → range.isSome = true := by
  intro hnormalize
  unfold OpenedRun.range at h
  rw [if_pos hnormalize, map_eq_pure_bind] at h
  obtain ⟨found, mid, -, h⟩ := Action.exists_of_bind_eq_ok h
  cases h
  rfl

/-- Every stage of a run of valid options is clear. -/
theorem stagesClear (h : run.options.Passes)
    (hsources : run.sources.length = run.options.inputs.length) : run.StagesClear engine where
  datum := by
    obtain ⟨d, hd⟩ := h.datum
    rw [hd]
    exact .ok d
  georeferences := by
    refine GeoreferenceOptions.neverRefuses_resolve ?_ (fun hbounds ↦ ?_) h.datum
    · intro hnil
      rw [hnil] at hsources
      exact h.inputs (List.eq_nil_of_length_eq_zero hsources.symm)
    · rw [hsources]
      exact h.bounds hbounds
  resolution hp := Resolution.neverRefuses_geodetic hp
  grid hp := OutputGrid.neverRefuses_ofProfile hp
  composition _ _ _ hrange := Composition.raisesOnly_compose (isSome_of_range hrange) engine
  adjustment _ _ _ hrange := RasterSource.neverRefuses_adjust (isSome_of_range hrange)
  viewer _ hbox := ViewerConfig.neverRefuses_ofProfile hbox h.moduleName

/-- How an opened run can end in a failure. -/
inductive EndsIn (engine : Engine Float) (run : OpenedRun) : Fault → Prop
  | elsewhere {e : Fault} : e.NotConfig → EndsIn engine run e
  /-- The first pass of normalising finds nothing. -/
  | noValidPixel {log log' : List LogRecord} : run.options.profile.isGeoreferenced = true →
    run.options.pixels.normalize = true →
    PixelRange.observe engine run.options.pixels.nodata run.sources log =
      .error (.config .noValidPixel) log' → EndsIn engine run (.config .noValidPixel)
  /-- A writer of another package fails. -/
  | writer {e : Fault} {job : TileJob} {source : TileSource Float} {files files' : Files} :
    run.writer ≠ TileWriter.plan → run.writer.generate job source files = .error e files' →
    EndsIn engine run e

theorem raisesOnly_range (hp : run.options.profile.isGeoreferenced = true) :
    RaisesOnly (run.EndsIn engine) (run.range engine) := by
  unfold OpenedRun.range
  split
  case isFalse => exact .pure _
  case isTrue hnormalize =>
    rw [map_eq_pure_bind]
    refine .bind (fun log e log' he ↦ ?_) fun _ _ _ _ ↦ .pure _
    rcases PixelRange.raisesOnly_observe _ _ _ log e log' he with hother | rfl
    · exact .elsewhere hother
    · exact .noValidPixel hp hnormalize he

theorem raisesOnly_generate (job : TileJob) {source : TileSource Float}
    (hread : ∀ window, NeverRefuses (source.read window)) :
    RaisesOnly (run.EndsIn engine) (run.writer.generate job source) := by
  intro files e files' he
  by_cases hplan : run.writer = TileWriter.plan
  · rw [hplan] at he
    exact .elsewhere (TileWriter.raisesOnly_plan job hread files e files' he)
  · exact .writer hplan he

theorem raisesOnly_place (h : run.StagesClear engine)
    (hp : run.options.profile.isGeoreferenced = true) :
    RaisesOnly (run.EndsIn engine) (run.place engine (Resolution.geodetic engine.project)) := by
  have helse {β : Type} {x : Except Fault β} (hx : NeverRefuses x) :
      RaisesOnly (run.EndsIn engine) (Logging.ofExcept x) := .logging (hx.mono fun _ ↦ .elsewhere)
  refine .bind (helse h.georeferences) fun _ resolved _ _ ↦ ?_
  refine .bind (helse (Resolution.neverRefuses_estimate (h.resolution hp) _ _ _))
    fun _ resolution _ _ ↦ ?_
  refine .bind (helse (h.grid hp _ _)) fun _ output _ _ ↦ ?_
  refine .bind (raisesOnly_range hp) fun _ range _ hrange ↦ ?_
  refine .bind ((h.composition range _ _ hrange _ _ _).mono fun _ ↦ .elsewhere)
    fun _ composition _ _ ↦ ?_
  exact .bind (helse (PyramidBounds.neverRefuses_align _ _ _ _ _ _)) fun _ _ _ _ ↦ .pure _

theorem raisesOnly_placed (h : run.StagesClear engine)
    (hp : run.options.profile.isGeoreferenced = true) :
    RaisesOnly (run.EndsIn engine) (run.placed engine (Resolution.geodetic engine.project)) := by
  have helse {β : Type} {x : Except Fault β} (hx : NeverRefuses x) :
      RaisesOnly (run.EndsIn engine) (Task.ofExcept x) := .task (hx.mono fun _ ↦ .elsewhere)
  refine .bind (.ofLogging (raisesOnly_place h hp)) fun _ (placement, composition) _ _ ↦ ?_
  refine .bind (helse (composition.canvas.neverRefuses_prepare _ _)) fun _ canvas _ _ ↦ ?_
  refine .bind (helse (h.viewer _ fun _ ↦ rfl)) fun _ viewer _ _ ↦ ?_
  refine .bind (.onFiles (raisesOnly_generate _ canvas.neverRefuses_read)) fun _ tree _ _ ↦ ?_
  exact .bind (.onFiles ((Sidecar.foreign_emit _ _ _).mono fun _ he ↦ .elsewhere he.notConfig))
    fun _ _ _ _ ↦ .pure _

theorem raisesOnly_plain (h : run.StagesClear engine)
    (hp : run.options.profile.isGeoreferenced = false) (source : RasterSource Float) :
    RaisesOnly (run.EndsIn engine) (run.plain engine source) := by
  have hviewer := h.viewer none fun hp' ↦ absurd (hp.symm.trans hp') (by decide)
  have hread (window : PixelBox) : NeverRefuses ((imageSource engine source).read window) :=
    .bind (engine.neverRefuses_pixelsOf source) fun _ _ ↦ .ok _
  refine .bind (.task (hviewer.mono fun _ ↦ .elsewhere)) fun _ viewer _ _ ↦ ?_
  exact .bind (.onFiles (raisesOnly_generate _ hread)) fun _ _ _ _ ↦ .pure _

end OpenedRun

/-- A result taken into a session leaves it as it is. -/
theorem Task.eq_ok_of_ofExcept {β : Type} {x : Except Fault β} {b : β} {s s' : Session}
    (h : Task.ofExcept x s = .ok b s') : x = .ok b ∧ s' = s := by
  cases x with
  | ok c =>
    cases h
    exact ⟨rfl, rfl⟩
  | error e => cases h

/-- The table of writers is remembered or made, and neither fails. -/
theorem Task.raisesOnly_writers : RaisesOnly (fun _ ↦ False) Task.writers := by
  refine .bind (fun _ _ _ h ↦ by cases h) fun _ s _ _ ↦ ?_
  split
  · exact .pure _
  · exact .bind (fun _ _ _ h ↦ by cases h) fun _ _ _ _ ↦ .pure _

namespace Mosaic

variable {engine : Engine Float} {options : MosaicOptions} {given : Option TileWriter}

/-- What was found out when a run was opened. -/
structure Opens (engine : Engine Float) (options : MosaicOptions) (given : Option TileWriter)
    (s : Session) (run : OpenedRun) : Prop where
  same : run.options = options
  valid : options.validate = .ok ()
  writer : ∃ s', writerFor options given s = .ok run.writer s'
  sources : options.inputs.mapM engine.openAt = .ok run.sources
  outputName : options.resolvedOutputName = .ok run.outputName

theorem opens_of_opened {s s' : Session} {run : OpenedRun}
    (h : opened engine options given s = .ok run s') : Opens engine options given s run := by
  obtain ⟨_, _, hcheck, hafter⟩ := Action.exists_of_bind_eq_ok h
  obtain ⟨hvalid, rfl⟩ := Task.eq_ok_of_ofExcept hcheck
  obtain ⟨writer, _, hwriter, hafter⟩ := Action.exists_of_bind_eq_ok hafter
  obtain ⟨sources, _, hsources, hafter⟩ := Action.exists_of_bind_eq_ok hafter
  obtain ⟨name, _, hname, hafter⟩ := Action.exists_of_bind_eq_ok hafter
  cases hafter
  exact ⟨rfl, hvalid, ⟨_, hwriter⟩, (Task.eq_ok_of_ofExcept hsources).1,
    (Task.eq_ok_of_ofExcept hname).1⟩

theorem Opens.length_sources {s : Session} {run : OpenedRun}
    (h : Opens engine options given s run) : run.sources.length = run.options.inputs.length := by
  rw [h.same]
  exact length_of_mapM h.sources

/-- Only the look-up of a writer by its name can fail. -/
theorem cases_of_writerFor_eq_error {s s' : Session} {e : Fault}
    (h : writerFor options given s = .error e s') :
    given = none ∧ ∃ table mid, Task.writers s = .ok table mid ∧
      Registry.get table options.writer = .error e := by
  cases given with
  | some writer => cases h
  | none =>
    refine ⟨rfl, ?_⟩
    rcases Action.cases_of_bind_eq_error h with h | ⟨table, mid, htable, h⟩
    · exact (Task.raisesOnly_writers _ _ _ h).elim
    · refine ⟨table, mid, htable, ?_⟩
      cases hget : Registry.get table options.writer with
      | ok writer =>
        rw [hget] at h
        cases h
      | error e' =>
        rw [hget] at h
        cases h
        rfl

/-- The writer is looked for once the options are checked; opening a run fails on account of valid
options only there. -/
theorem cases_of_opened_eq_error (hvalid : options.validate = .ok ()) {s s' : Session}
    {cause : ConfigFault} (h : opened engine options given s = .error (.config cause) s') :
    given = none ∧ ∃ table mid, Task.writers s = .ok table mid ∧
      Registry.get table options.writer = .error (.config cause) := by
  have helse {β : Type} {x : Except Fault β} (hx : NeverRefuses x) {s s' : Session} :
      Task.ofExcept x s ≠ .error (.config cause) s' :=
    fun he ↦ RaisesOnly.task hx s _ s' he
  have hopen (path : Path) : NeverRefuses (engine.openAt path) := by
    unfold Engine.openAt
    split
    · exact .ok _
    · exact .error trivial
  have hname : NeverRefuses options.resolvedOutputName := by
    unfold MosaicOptions.resolvedOutputName
    split
    · exact .ok _
    split
    · exact .ok _
    · exact .error trivial
  unfold opened at h
  rw [hvalid, Action.bind_of_eq_ok (rfl : Task.ofExcept (.ok ()) s = .ok () s)] at h
  rcases Action.cases_of_bind_eq_error h with h | ⟨writer, mid, -, h⟩
  · exact cases_of_writerFor_eq_error h
  rcases Action.cases_of_bind_eq_error h with h | ⟨sources, mid, -, h⟩
  · exact absurd h (helse (.mapM fun path _ ↦ hopen path))
  rcases Action.cases_of_bind_eq_error h with h | ⟨name, mid, -, h⟩
  · exact absurd h (helse hname)
  · cases h

/-- Valid options are clear for every stage of a run, and a run only refuses them because the writer
they name cannot be had, because no source has a pixel with data, or in a writer of another
package. -/
theorem refusals_of_run (engine : Engine Float) (given : Option TileWriter) (s : Session)
    (hvalid : options.validate = .ok ()) :
    (∀ run s', opened engine options given s = .ok run s' → run.StagesClear engine) ∧
    ∀ cause s', Mosaic.run engine (Resolution.geodetic engine.project) options given s =
        .error (.config cause) s' →
      (given = none ∧ ∃ table mid, Task.writers s = .ok table mid ∧
        Registry.get table options.writer = .error (.config cause)) ∨
      ∃ run mid, opened engine options given s = .ok run mid ∧
        ((options.profile.isGeoreferenced = true ∧ options.pixels.normalize = true ∧
          cause = .noValidPixel ∧ ∃ log log',
            PixelRange.observe engine options.pixels.nodata run.sources log =
              .error (.config .noValidPixel) log') ∨
        (run.writer ≠ TileWriter.plan ∧ ∃ job source files files',
          run.writer.generate job source files = .error (.config cause) files')) := by
  have hclear {run : OpenedRun} {s' : Session} (h : opened engine options given s = .ok run s') :
      run.options = options ∧ run.sources.length = run.options.inputs.length ∧
        run.StagesClear engine := by
    have hopens := opens_of_opened h
    exact ⟨hopens.same, hopens.length_sources, OpenedRun.stagesClear
      (hopens.same ▸ MosaicOptions.validate_eq_ok_iff.1 hvalid) hopens.length_sources⟩
  refine ⟨fun run s' h ↦ (hclear h).2.2, fun cause s' h ↦ ?_⟩
  rcases Action.cases_of_bind_eq_error h with hopened | ⟨run, mid, hopened, h⟩
  · exact .inl (cases_of_opened_eq_error hvalid hopened)
  right
  refine ⟨run, mid, hopened, ?_⟩
  obtain ⟨ho, hsources, hstages⟩ := hclear hopened
  have hends : run.EndsIn engine (.config cause) := by
    split at h
    case isTrue hp => exact OpenedRun.raisesOnly_placed hstages (ho ▸ hp) _ _ _ h
    case isFalse hp =>
      cases hfound : run.sources with
      | nil =>
        have hnone := (MosaicOptions.validate_eq_ok_iff.1 hvalid).inputs
        rw [hfound, ho] at hsources
        exact absurd (List.eq_nil_of_length_eq_zero hsources.symm) hnone
      | cons source rest =>
        rw [hfound] at h
        exact OpenedRun.raisesOnly_plain hstages (ho ▸ Bool.eq_false_iff.2 hp) source _ _ _ h
  subst ho
  cases hends with
  | elsewhere hother => exact hother.elim
  | noValidPixel hp hnormalize hobserve => exact .inl ⟨hp, hnormalize, rfl, _, _, hobserve⟩
  | writer hwriter hgenerate => exact .inr ⟨hwriter, _, _, _, _, hgenerate⟩

/-- An engine that finds one image and cannot read its pixels. -/
def blindEngine : Engine Float where
  openSource _ := some MosaicOptions.scene.1
  readSource _ := none
  project _ _ := some id
  warp pixels _ _ _ _ := pixels

/-- With the built-in writer a run is clear; a writer that nobody announced is refused. -/
theorem refusals_of_run_of_one_scene :
    (∃ run s', opened blindEngine (.wide none) (some TileWriter.plan) {} = .ok run s' ∧
      run.StagesClear blindEngine) ∧
    ∃ cause s', Mosaic.run blindEngine (Resolution.geodetic blindEngine.project)
        { MosaicOptions.wide none with writer := "absent" } none {} = .error (.config cause) s' ∧
      ∃ table, Registry.get table "absent" = .error (.config cause) := by
  constructor
  · obtain ⟨run, s', hopened⟩ : ∃ run s',
        opened blindEngine (.wide none) (some TileWriter.plan) {} = .ok run s' := ⟨_, _, rfl⟩
    exact ⟨run, s', hopened, (refusals_of_run blindEngine _ {} rfl).1 run s' hopened⟩
  · obtain ⟨cause, s', herror⟩ : ∃ cause s',
        Mosaic.run blindEngine (Resolution.geodetic blindEngine.project)
          { MosaicOptions.wide none with writer := "absent" } none {} =
            .error (.config cause) s' := ⟨_, _, rfl⟩
    refine ⟨cause, s', herror, ?_⟩
    rcases (refusals_of_run blindEngine none {} rfl).2 cause s' herror with
      ⟨-, table, -, -, hget⟩ | ⟨run, mid, hopened, -⟩
    · exact ⟨table, hget⟩
    · cases hopened

end Mosaic

end QuadMosaic
