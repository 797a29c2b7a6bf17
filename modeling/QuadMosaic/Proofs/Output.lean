import QuadMosaic.Proofs.Runs

/-!
# All or nothing

A run writes in its last stages only: the tiles, then the files beside them, then the report.
Whatever can fail in the program's own words comes before the first of them, also the reading of the
pixels, which the built-in writer is through with when it starts to write.  So a command that fails
in these words leaves the files as they were, and one that succeeds has written all its documents
and nothing else.
-/

namespace QuadMosaic

/-! ## Actions that fail before they write -/

namespace Action

variable {σ τ β γ : Type} {view : σ → τ} {x : EStateM Fault σ β}

/-- An action that fails in the program's own words leaves a part of the state as it is. -/
def AllOrNothing (view : σ → τ) (x : EStateM Fault σ β) : Prop :=
  ∀ s e s', x s = .error e s' → e.isOwn = true → view s' = view s

theorem AllOrNothing.of_foreign (h : RaisesOnly Fault.Foreign x) : AllOrNothing view x :=
  fun s e s' he hown ↦ absurd ((h s e s' he).symm.trans hown) (by decide)

/-- Before it writes, an action may fail in any way. -/
theorem AllOrNothing.after {f : β → EStateM Fault σ γ} (hx : Keeps view x)
    (hf : ∀ b, AllOrNothing view (f b)) : AllOrNothing view (x >>= f) := by
  intro s e s' h hown
  rcases cases_of_bind_eq_error h with h | ⟨b, mid, hb, h⟩
  · exact hx.error s e s' h
  · exact (hf b mid e s' h hown).trans (hx.ok s b mid hb)

/-- Once it has written, an action may only fail in other words. -/
theorem AllOrNothing.bind {f : β → EStateM Fault σ γ} (hx : AllOrNothing view x)
    (hf : ∀ b, RaisesOnly Fault.Foreign (f b)) : AllOrNothing view (x >>= f) := by
  intro s e s' h hown
  rcases cases_of_bind_eq_error h with h | ⟨b, mid, hb, h⟩
  · exact hx s e s' h hown
  · exact absurd ((hf b mid e s' h).symm.trans hown) (by decide)

end Action

namespace Task

variable {β : Type}

theorem allOrNothing_onFiles {action : Writing β} (h : Action.AllOrNothing id action) :
    Action.AllOrNothing Session.files (onFiles action) := by
  intro s e s' he hown
  unfold onFiles at he
  split at he
  case h_1 => cases he
  case h_2 e' files haction =>
    cases he
    exact h s.files e files haction hown

end Task

namespace Writing

variable {β γ : Type} {c : γ} {files files' : Files}

theorem keeps_ofExcept (x : Except Fault β) : Action.Keeps id (ofExcept x) := by
  cases x with
  | ok b => exact .pure b
  | error e => exact .throw e

theorem exists_of_ofExcept_bind {x : Except Fault β} {f : β → Writing γ}
    (h : (ofExcept x >>= f) files = .ok c files') : ∃ b, x = .ok b ∧ f b files = .ok c files' := by
  obtain ⟨b, mid, htake, hafter⟩ := Action.exists_of_bind_eq_ok h
  cases x with
  | ok b' =>
    cases htake
    exact ⟨b, rfl, hafter⟩
  | error e => cases htake

theorem eq_ok_of_write {path : Path} {text : String} {u : Unit}
    (h : write path text files = .ok u files') : files.write path text = .ok files' := by
  have hget : (get : Writing Files) files = .ok files files := rfl
  unfold write at h
  rw [Action.bind_of_eq_ok hget] at h
  obtain ⟨after, hwrite, hset⟩ := exists_of_ofExcept_bind h
  cases hset
  exact hwrite

theorem write_eq_ok {path : Path} {text : String} (h : files.write path text = .ok files') :
    write path text files = .ok () files' := by
  have hget : (get : Writing Files) files = .ok files files := rfl
  unfold write
  rw [Action.bind_of_eq_ok hget, h]
  rfl

theorem exists_of_write_bind {path : Path} {text : String} {f : Unit → Writing γ}
    (h : (write path text >>= f) files = .ok c files') :
    ∃ mid, files.write path text = .ok mid ∧ f () mid = .ok c files' := by
  obtain ⟨u, mid, hwrite, hafter⟩ := Action.exists_of_bind_eq_ok h
  exact ⟨mid, eq_ok_of_write hwrite, hafter⟩

end Writing

/-! ## The built-in writer -/

/-- The writers of a session, when they have been looked for, are those announced at some time. -/
def Session.Discovered (s : Session) : Prop :=
  ∀ table, s.writers = some table → ∃ announcements, table = Registry.discover announcements

namespace Mosaic

/-- The writer of a run is the built-in one: it is given, or it is the one that the options name. -/
inductive UsesPlan (options : MosaicOptions) : Option TileWriter → Session → Prop
  | given (s : Session) : UsesPlan options (some TileWriter.plan) s
  | named {s : Session} : options.writer = "plan" → s.Discovered → UsesPlan options none s

theorem UsesPlan.writer_eq {options : MosaicOptions} {given : Option TileWriter} {s s' : Session}
    {writer : TileWriter} (h : UsesPlan options given s)
    (hwriter : writerFor options given s = .ok writer s') : writer = TileWriter.plan := by
  cases h with
  | given =>
    cases hwriter
    rfl
  | named hname hdiscovered =>
    obtain ⟨table, mid, htable, hget⟩ := Action.exists_of_bind_eq_ok hwriter
    have hget := (Task.eq_ok_of_ofExcept hget).1
    obtain ⟨announcements, rfl⟩ : ∃ announcements, table = Registry.discover announcements := by
      rw [Task.writers_eq] at htable
      split at htable
      case h_1 found hfound =>
        cases htable
        exact hdiscovered table hfound
      case h_2 =>
        cases htable
        exact ⟨s.announcements, rfl⟩
    rw [hname, Registry.get_discover] at hget
    exact (Except.ok.inj hget).symm

end Mosaic

/-! ## What the stages write -/

namespace TileWriter

variable {job : TileJob} {source : TileSource Float}

theorem allOrNothing_plan (job : TileJob) (source : TileSource Float) :
    Action.AllOrNothing id (plan.generate job source) :=
  .after (Writing.keeps_ofExcept _) fun _ ↦
    .of_foreign (.bind (Writing.foreign_write _ _) fun _ _ _ _ ↦ .pure _)

/-- All that the built-in writer does. -/
theorem exists_of_plan {tree : TileTree} {files files' : Files}
    (h : plan.generate job source files = .ok tree files') :
    ∃ p, TilePlan.ofJob .rounded job source = .ok p ∧
      files.write (job.path ".tiles.json") (p.toJson job).document = .ok files' ∧
      tree = { levels := .int p.levels.length
               fileType := job.fileType
               tileCount := p.tileCount
               artifacts := [("tile_plan", job.path ".tiles.json")] } := by
  obtain ⟨p, hplan, hafter⟩ := Writing.exists_of_ofExcept_bind h
  obtain ⟨mid, hwrite, hafter⟩ := Writing.exists_of_write_bind hafter
  cases hafter
  exact ⟨p, hplan, hwrite, rfl⟩

end TileWriter

/-- The endings of the files that stand beside the tiles. -/
def Profile.sidecarEndings : Profile → List String
  | .uniview => [".conf"]
  | .celestia => [".ctx", ".ssc"]
  | _ => []

theorem Profile.sidecarEndings_of_plain {p : Profile} (hp : p.isGeoreferenced = false) :
    p.sidecarEndings = [] := by
  cases p <;> revert hp <;> decide

/-- The files beside the tiles are those of the profile. -/
theorem Sidecar.exists_of_emit {config : ViewerConfig} {job : TileJob} {tree : TileTree}
    {sidecars : List (String × Path)} {files files' : Files}
    (h : emit config job tree files = .ok sidecars files') :
    ∃ documents : List (Path × String),
      sidecars.map (·.2) = config.profile.sidecarEndings.map job.path ∧
      documents.map (·.1) = sidecars.map (·.2) ∧ files.writeAll documents = .ok files' := by
  cases config with
  | uniview moduleName terrain =>
    obtain ⟨title, -, hafter⟩ := Writing.exists_of_ofExcept_bind h
    obtain ⟨deepest, -, hafter⟩ := Writing.exists_of_ofExcept_bind hafter
    obtain ⟨mid, hwrite, hafter⟩ := Writing.exists_of_write_bind hafter
    cases hafter
    exact ⟨[(_, _)], rfl, rfl, Files.writeAll_singleton.trans hwrite⟩
  | celestia moduleName =>
    obtain ⟨title, -, hafter⟩ := Writing.exists_of_ofExcept_bind h
    obtain ⟨mid, htexture, hafter⟩ := Writing.exists_of_write_bind hafter
    obtain ⟨mid', hsurface, hafter⟩ := Writing.exists_of_write_bind hafter
    cases hafter
    exact ⟨[(_, _), (_, _)], rfl, rfl,
      Files.writeAll_append (Files.writeAll_singleton.trans htexture)
        (Files.writeAll_singleton.trans hsurface)⟩
  | plain projected =>
    cases h
    exact ⟨[], by cases projected <;> rfl, rfl, rfl⟩
  | kml | tms | gmap | gigapan =>
    cases h
    exact ⟨[], rfl, rfl, rfl⟩

/-! ## A run that fails in the program's own words -/

namespace OpenedRun

variable {engine : Engine Float} {rule : ResolutionRule Float} {run : OpenedRun}

theorem allOrNothing_placed (hplan : run.writer = TileWriter.plan) :
    Action.AllOrNothing Session.files (run.placed engine rule) := by
  refine .after (Task.keepsFiles_ofLogging _) fun _ ↦ .after (Task.keepsFiles_ofExcept _) fun _ ↦
    .after (Task.keepsFiles_ofExcept _) fun _ ↦ ?_
  rw [hplan]
  exact .bind (Task.allOrNothing_onFiles (TileWriter.allOrNothing_plan _ _)) fun _ ↦
    .bind (.onFiles (Sidecar.foreign_emit _ _ _)) fun _ _ _ _ ↦ .pure _

theorem allOrNothing_plain (hplan : run.writer = TileWriter.plan)
    (source : RasterSource Float) :
    Action.AllOrNothing Session.files (run.plain engine source) := by
  refine .after (Task.keepsFiles_ofExcept _) fun _ ↦ ?_
  rw [hplan]
  exact .bind (Task.allOrNothing_onFiles (TileWriter.allOrNothing_plan _ _)) fun _ ↦ .pure _

end OpenedRun

namespace Mosaic

variable {engine : Engine Float} {rule : ResolutionRule Float} {options : MosaicOptions}
  {given : Option TileWriter} {s s' : Session}

/-- A run with the built-in writer that fails in the program's own words leaves the files as they
are. -/
theorem files_of_run_eq_error (hplan : UsesPlan options given s) {e : Fault}
    (h : Mosaic.run engine rule options given s = .error e s') (hown : e.isOwn = true) :
    s'.files = s.files := by
  have hopen := keepsFiles_opened engine options given
  rcases Action.cases_of_bind_eq_error h with h | ⟨run, mid, hopened, h⟩
  · exact hopen.error s e s' h
  obtain ⟨s₁, hwriter⟩ := (opens_of_opened hopened).writer
  have hwriter := hplan.writer_eq hwriter
  refine Eq.trans ?_ (hopen.ok s run mid hopened)
  split at h
  · exact OpenedRun.allOrNothing_placed hwriter mid e s' h hown
  · cases hsources : run.sources with
    | cons source rest =>
      rw [hsources] at h
      exact OpenedRun.allOrNothing_plain hwriter source mid e s' h hown
    | nil =>
      rw [hsources] at h
      cases h
      rfl

/-- An engine that finds one image, with nothing but zeros in it. -/
def zeroEngine : Engine Float :=
  { blindEngine with readSource := fun _ ↦ some (.zeros 1 4 4) }

end Mosaic

/-- The documents of a pyramid: the plan of its tiles, then the files that its profile asks for. -/
structure MosaicResult.IsWrittenAs (result : MosaicResult) (options : MosaicOptions)
    (documents : List (Path × String)) : Prop where
  outputName : options.resolvedOutputName = .ok result.job.outputName
  profile : result.job.profile = options.profile
  plan : ∃ (source : TileSource Float) (plan : TilePlan),
    TilePlan.ofJob .rounded result.job source = .ok plan ∧
    documents.head? = some (result.job.path ".tiles.json", (plan.toJson result.job).document)
  sidecars : result.sidecars.map (·.2) = options.profile.sidecarEndings.map result.job.path
  paths : documents.map (·.1) = result.job.path ".tiles.json" :: result.sidecars.map (·.2)

/-- A run with the built-in writer that gives a result has written the documents of its pyramid. -/
theorem Mosaic.written_of_run {engine : Engine Float} {rule : ResolutionRule Float}
    {options : MosaicOptions} {given : Option TileWriter} {s s' : Session} {result : MosaicResult}
    (hplan : UsesPlan options given s)
    (h : Mosaic.run engine rule options given s = .ok result s') :
    ∃ documents, result.IsWrittenAs options documents ∧
      s.files.writeAll documents = .ok s'.files := by
  obtain ⟨run, mid, hopens, hfiles, hthrough⟩ := goesThrough_of_run h
  obtain ⟨s₁, hwriter⟩ := hopens.writer
  have hwriter := hplan.writer_eq hwriter
  have hname := hopens.outputName
  rw [← hopens.same, ← hfiles]
  rw [← hopens.same] at hname
  cases hthrough with
  | plain hp _ hviewer htree =>
    rw [hwriter] at htree
    obtain ⟨plan, hplan, hwrite, -⟩ := TileWriter.exists_of_plan htree
    have hprofile := ViewerConfig.profile_of_ofProfile hviewer
    refine ⟨[(_, _)], ⟨hname, hprofile, ⟨_, plan, hplan, rfl⟩, ?_, rfl⟩,
      Files.writeAll_singleton.trans hwrite⟩
    rw [Profile.sidecarEndings_of_plain hp]
    rfl
  | placed _ _ _ hviewer htree hemit =>
    rw [hwriter] at htree
    obtain ⟨plan, hplan, hwrite, -⟩ := TileWriter.exists_of_plan htree
    obtain ⟨documents, hsidecars, hpaths, hemit⟩ := Sidecar.exists_of_emit hemit
    have hprofile := ViewerConfig.profile_of_ofProfile hviewer
    rw [hprofile] at hsidecars
    exact ⟨(_, _) :: documents,
      ⟨hname, hprofile, ⟨_, plan, hplan, rfl⟩, hsidecars, congrArg (_ :: ·) hpaths⟩,
      Files.writeAll_append (Files.writeAll_singleton.trans hwrite) hemit⟩

namespace Program

/-- A report fails for its schema or for a division, not in the program's own words. -/
theorem foreign_checkedReport (result : MosaicResult) (instant : String) :
    FailsOnly Fault.Foreign (checkedReport result instant) := by
  have hresolution : FailsOnly Fault.Foreign result.resolutionToJson := by
    unfold MosaicResult.resolutionToJson
    split
    · exact .ok _
    · exact .bind (.ite (.error rfl) (.ok _)) fun _ _ ↦ .ok _
  refine .bind (.bind hresolution fun _ _ ↦ .ok _) fun report _ ↦ ?_
  split
  · exact .ok _
  · exact .error rfl

variable {engine : Engine Float} {rule : ResolutionRule Float} {instant : String}
  {flags : MosaicFlags} {s s' : Session}

theorem files_of_mosaic_eq_error
    (hplan : ∀ options, mosaicOptions s.files flags = .ok options → Mosaic.UsesPlan options none s)
    {e : Fault} (h : mosaic engine rule instant flags s = .error e s') (hown : e.isOwn = true) :
    s'.files = s.files := by
  have hget : (get : Task Session) s = .ok s s := rfl
  unfold mosaic at h
  rw [Action.bind_of_eq_ok hget] at h
  rcases Action.cases_of_bind_eq_error h with hnone | ⟨options, mid, htake, hafter⟩
  · exact (Task.keepsFiles_ofExcept _).error s e s' hnone
  obtain ⟨hoptions, rfl⟩ := Task.eq_ok_of_ofExcept htake
  rcases Action.cases_of_bind_eq_error hafter with hrun | ⟨result, after, -, hafter⟩
  · exact Mosaic.files_of_run_eq_error (hplan options hoptions) hrun hown
  -- what is left to do writes, and fails in other words
  have hrest : RaisesOnly Fault.Foreign (do
      let report ← Task.ofExcept (checkedReport result instant)
      Task.onFiles (Writing.write (reportPath flags result.job.outputName) report.document)
      Task.logAll (result.warnings.map runWarning)
      pure (Printed.lines [])) :=
    .bind (.task (foreign_checkedReport result instant)) fun _ _ _ _ ↦
      .bind (.onFiles (Writing.foreign_write _ _)) fun _ _ _ _ ↦
        .bind (.modify _) fun _ _ _ _ ↦ .pure _
  exact absurd ((hrest after e s' hafter).symm.trans hown) (by decide)

theorem written_of_mosaic
    (hplan : ∀ options, mosaicOptions s.files flags = .ok options → Mosaic.UsesPlan options none s)
    {printed : Printed} (h : mosaic engine rule instant flags s = .ok printed s') :
    ∃ options result mid report documents, mosaicOptions s.files flags = .ok options ∧
      Mosaic.run engine rule options none s = .ok result mid ∧
      checkedReport result instant = .ok report ∧ result.IsWrittenAs options documents ∧
      s.files.writeAll
        (documents ++ [(reportPath flags result.job.outputName, report.document)]) =
          .ok s'.files := by
  have hget : (get : Task Session) s = .ok s s := rfl
  unfold mosaic at h
  rw [Action.bind_of_eq_ok hget] at h
  obtain ⟨options, hoptions, hafter⟩ := Task.exists_of_ofExcept_bind h
  obtain ⟨result, mid, hrun, hafter⟩ := Action.exists_of_bind_eq_ok hafter
  obtain ⟨report, hreport, hafter⟩ := Task.exists_of_ofExcept_bind hafter
  obtain ⟨_, files, hwrite, hafter⟩ := Task.exists_of_onFiles_bind hafter
  obtain ⟨documents, hwritten, hdocuments⟩ := Mosaic.written_of_run (hplan options hoptions) hrun
  refine ⟨options, result, mid, report, documents, hoptions, hrun, hreport, hwritten,
    Files.writeAll_append hdocuments (Files.writeAll_singleton.trans ?_)⟩
  cases hafter
  exact Writing.eq_ok_of_write hwrite

/-- A run with the built-in writer, and the command around it, either end in a failure of the
program's own and leave the files as they are, or have written all that they should and nothing
else. -/
theorem mosaic_writes_all_or_nothing (engine : Engine Float) (rule : ResolutionRule Float)
    (instant : String) (s : Session) :
    (∀ options given, Mosaic.UsesPlan options given s →
      (∀ e s', Mosaic.run engine rule options given s = .error e s' → e.isOwn = true →
        s'.files = s.files) ∧
      ∀ result s', Mosaic.run engine rule options given s = .ok result s' →
        ∃ documents, result.IsWrittenAs options documents ∧ s.files.Wrote documents s'.files) ∧
    ∀ flags, (∀ options, mosaicOptions s.files flags = .ok options →
        Mosaic.UsesPlan options none s) →
      (∀ e s', mosaic engine rule instant flags s = .error e s' → e.isOwn = true →
        s'.files = s.files) ∧
      ∀ printed s', mosaic engine rule instant flags s = .ok printed s' →
        ∃ options result mid report documents,
          mosaicOptions s.files flags = .ok options ∧
          Mosaic.run engine rule options none s = .ok result mid ∧
          checkedReport result instant = .ok report ∧ result.IsWrittenAs options documents ∧
          s.files.Wrote
            (documents ++ [(reportPath flags result.job.outputName, report.document)])
            s'.files := by
  refine ⟨fun options given hplan ↦ ⟨fun e s' he hown ↦ ?_, fun result s' h ↦ ?_⟩,
    fun flags hplan ↦ ⟨fun e s' he hown ↦ ?_, fun printed s' h ↦ ?_⟩⟩
  · exact Mosaic.files_of_run_eq_error hplan he hown
  · obtain ⟨documents, hwritten, hwrite⟩ := Mosaic.written_of_run hplan h
    exact ⟨documents, hwritten, Files.wrote_of_writeAll hwrite⟩
  · exact files_of_mosaic_eq_error hplan he hown
  · obtain ⟨options, result, mid, report, documents, hoptions, hrun, hreport, hwritten, hwrite⟩ :=
      written_of_mosaic hplan h
    exact ⟨options, result, mid, report, documents, hoptions, hrun, hreport, hwritten,
      Files.wrote_of_writeAll hwrite⟩

/-- The flags for one image without a place on the globe. -/
def plainFlags : MosaicFlags := { inputs := ["a.tif"], mode := some (.of "none") }

/-- Whether a command failed in the program's own words. -/
def isOwnFault : EStateM.Result Fault Session Printed → Bool
  | .ok _ _ => false
  | .error e _ => e.isOwn

/-- An image on the globe is recorded in a plan, with the two files of a viewer beside it.  One that
has no place there is recorded in a plan and, by the command, in a report; an image that cannot be
read, which the writer finds out, leaves no file. -/
theorem mosaic_writes_all_or_nothing_of_one_scene :
    (∃ result s' documents,
      Mosaic.run Mosaic.spotEngine (fun _ _ _ _ ↦ .ok 0) Mosaic.spotOptions
        (some TileWriter.plan) {} = .ok result s' ∧
      s'.files.written = [⟨"", ["a.tiles.json"]⟩, ⟨"", ["a.ctx"]⟩, ⟨"", ["a.ssc"]⟩] ∧
      result.IsWrittenAs Mosaic.spotOptions documents ∧ Files.Wrote {} documents s'.files) ∧
    (∃ printed s' documents, mosaic Mosaic.zeroEngine (fun _ _ _ _ ↦ .ok 0) "" plainFlags {} =
        .ok printed s' ∧ s'.files.written = [⟨"", ["a.tiles.json"]⟩, ⟨"", ["a.report.json"]⟩] ∧
      Files.Wrote {} documents s'.files) ∧
    ∃ e s', mosaic Mosaic.blindEngine (fun _ _ _ _ ↦ .ok 0) "" plainFlags {} = .error e s' ∧
      e.isOwn = true ∧ s'.files = {} := by
  have hplan (options : MosaicOptions) (h : mosaicOptions {} plainFlags = .ok options) :
      Mosaic.UsesPlan options none {} := by
    have hwriter : (mosaicOptions {} plainFlags).toOption.map (·.writer) = some "plan" := by
      decide +kernel
    rw [h] at hwriter
    exact .named (Option.some.inj hwriter) fun _ htable ↦ by cases htable
  refine ⟨?placed, ?plain, ?blind⟩
  case placed =>
    obtain ⟨result, s', hrun, -, hwritten⟩ := Mosaic.exists_run_spotOptions
    obtain ⟨documents, hdocuments, hwrote⟩ :=
      ((mosaic_writes_all_or_nothing Mosaic.spotEngine _ "" {}).1 Mosaic.spotOptions
        (some TileWriter.plan) (.given {})).2 result s' hrun
    exact ⟨result, s', documents, hrun, hwritten, hdocuments, hwrote⟩
  case plain =>
    have hwritten : Mosaic.written? Session.files
        (mosaic Mosaic.zeroEngine (fun _ _ _ _ ↦ .ok 0) "" plainFlags {}) =
          some [⟨"", ["a.tiles.json"]⟩, ⟨"", ["a.report.json"]⟩] := by
      decide +kernel
    cases h : mosaic Mosaic.zeroEngine (fun _ _ _ _ ↦ .ok 0) "" plainFlags {} with
    | error e s' =>
      rw [h] at hwritten
      cases hwritten
    | ok printed s' =>
      rw [h] at hwritten
      obtain ⟨_, _, _, _, documents, -, -, -, -, hwrote⟩ :=
        ((mosaic_writes_all_or_nothing Mosaic.zeroEngine _ "" {}).2 plainFlags hplan).2 printed s' h
      exact ⟨printed, s', _, rfl, Option.some.inj hwritten, hwrote⟩
  case blind =>
    have hown : isOwnFault (mosaic Mosaic.blindEngine (fun _ _ _ _ ↦ .ok 0) "" plainFlags {}) =
        true := by
      decide +kernel
    cases h : mosaic Mosaic.blindEngine (fun _ _ _ _ ↦ .ok 0) "" plainFlags {} with
    | ok printed s' =>
      rw [h] at hown
      cases hown
    | error e s' =>
      rw [h] at hown
      exact ⟨e, s', rfl, hown, ((mosaic_writes_all_or_nothing Mosaic.blindEngine _ "" {}).2
        plainFlags hplan).1 e s' h hown⟩

end Program

end QuadMosaic
