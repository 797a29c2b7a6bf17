import QuadMosaic.CommandLine.Program
import QuadMosaic.Proofs.Bookkeeping
import QuadMosaic.Proofs.Refusals
import QuadMosaic.Proofs.Registry

/-!
# Runs, stage by stage

A run opens its images and looks its writer up, which leaves the files as they are.  Then it hands
the first image to the writer, or places all of them on the globe, composes them and has the files
beside the tiles written too.  A run gives a result exactly when it went through all of these stages
(`Mosaic.run_eq_ok_iff`), and what it returns and leaves behind is told by the stages.
-/

namespace QuadMosaic

/-! ## Actions that leave a part of the state -/

namespace Action

variable {σ τ β γ : Type} {view : σ → τ} {x : EStateM Fault σ β}

/-- An action leaves a part of the state as it is, whether it fails or not. -/
structure Keeps (view : σ → τ) (x : EStateM Fault σ β) : Prop where
  ok : ∀ s b s', x s = .ok b s' → view s' = view s
  error : ∀ s e s', x s = .error e s' → view s' = view s

theorem Keeps.pure (b : β) : Keeps view (Pure.pure b : EStateM Fault σ β) where
  ok _ _ _ h := by cases h; rfl
  error _ _ _ h := by cases h

theorem Keeps.throw (e : Fault) : Keeps view (MonadExcept.throw e : EStateM Fault σ β) where
  ok _ _ _ h := by cases h
  error _ _ _ h := by cases h; rfl

theorem Keeps.bind {f : β → EStateM Fault σ γ} (hx : Keeps view x) (hf : ∀ b, Keeps view (f b)) :
    Keeps view (x >>= f) where
  ok s c s' h := by
    obtain ⟨b, mid, hb, h⟩ := exists_of_bind_eq_ok h
    exact ((hf b).ok mid c s' h).trans (hx.ok s b mid hb)
  error s e s' h := by
    rcases cases_of_bind_eq_error h with h | ⟨b, mid, hb, h⟩
    · exact hx.error s e s' h
    · exact ((hf b).error mid e s' h).trans (hx.ok s b mid hb)

end Action

namespace Task

variable {β : Type}

theorem keepsFiles_ofExcept (x : Except Fault β) : Action.Keeps Session.files (ofExcept x) := by
  cases x with
  | ok b => exact .pure b
  | error e => exact .throw e

theorem keepsFiles_ofLogging (action : Logging β) :
    Action.Keeps Session.files (ofLogging action) where
  ok s b s' h := by
    unfold ofLogging at h
    split at h
    all_goals cases h
    rfl
  error s e s' h := by
    unfold ofLogging at h
    split at h
    all_goals cases h
    rfl

theorem writers_eq (s : Session) : writers s =
    match s.writers with
    | some table => .ok table s
    | none => .ok (Registry.discover s.announcements) { s with
        writers := some (Registry.discover s.announcements)
        log := (Registry.discoveryLog s.announcements).reverse ++ s.log } := by
  have hget : (get : Task Session) s = .ok s s := rfl
  unfold writers
  rw [Action.bind_of_eq_ok hget]
  cases s.writers <;> rfl

theorem keepsFiles_writers : Action.Keeps Session.files writers where
  ok s table s' h := by
    rw [writers_eq] at h
    split at h
    all_goals cases h
    all_goals rfl
  error s e s' h := (raisesOnly_writers s e s' h).elim

variable {γ : Type} {s s' : Session} {c : γ}

/-- A result taken into a session leaves it to the next step. -/
theorem exists_of_ofExcept_bind {x : Except Fault β} {f : β → Task γ}
    (h : (ofExcept x >>= f) s = .ok c s') : ∃ b, x = .ok b ∧ f b s = .ok c s' := by
  obtain ⟨b, mid, htake, hafter⟩ := Action.exists_of_bind_eq_ok h
  obtain ⟨hx, rfl⟩ := eq_ok_of_ofExcept htake
  exact ⟨b, hx, hafter⟩

/-- An action on the files changes nothing else. -/
theorem exists_of_onFiles_bind {action : Writing β} {f : β → Task γ}
    (h : (onFiles action >>= f) s = .ok c s') :
    ∃ b files, action s.files = .ok b files ∧ f b { s with files } = .ok c s' := by
  obtain ⟨b, mid, hon, hafter⟩ := Action.exists_of_bind_eq_ok h
  unfold onFiles at hon
  split at hon
  case h_1 b' files haction =>
    cases hon
    exact ⟨b, files, haction, hafter⟩
  case h_2 => cases hon

/-- An action on the log changes nothing else. -/
theorem exists_of_ofLogging_bind {action : Logging β} {f : β → Task γ}
    (h : (ofLogging action >>= f) s = .ok c s') :
    ∃ b log, action s.log = .ok b log ∧ f b { s with log } = .ok c s' := by
  obtain ⟨b, mid, hon, hafter⟩ := Action.exists_of_bind_eq_ok h
  unfold ofLogging at hon
  split at hon
  case h_1 b' log haction =>
    cases hon
    exact ⟨b, log, haction, hafter⟩
  case h_2 => cases hon

variable {b : β} {f : β → Task γ}

theorem ofExcept_bind {x : Except Fault β} (h : x = .ok b) : (ofExcept x >>= f) s = f b s := by
  rw [h]
  rfl

theorem onFiles_bind {action : Writing β} {files : Files} (h : action s.files = .ok b files) :
    (onFiles action >>= f) s = f b { s with files } := by
  refine Action.bind_of_eq_ok ?_
  unfold onFiles
  rw [h]

theorem ofLogging_bind {action : Logging β} {log : List LogRecord}
    (h : action s.log = .ok b log) : (ofLogging action >>= f) s = f b { s with log } := by
  refine Action.bind_of_eq_ok ?_
  unfold ofLogging
  rw [h]

end Task

/-! ## Runs that go through -/

namespace OpenedRun

variable {engine : Engine Float} {rule : ResolutionRule Float} {run : OpenedRun}

/-- How an opened run goes through, stage by stage. -/
inductive GoesThrough (engine : Engine Float) (rule : ResolutionRule Float) (run : OpenedRun)
    (s : Session) : MosaicResult → Session → Prop
  | plain {source : RasterSource Float} {rest : List (RasterSource Float)}
      {viewer : ViewerConfig} {tree : TileTree} {files : Files} :
    run.options.profile.isGeoreferenced = false → run.sources = source :: rest →
    ViewerConfig.ofProfile run.options.profile run.options.viewerSettings none = .ok viewer →
    run.writer.generate (run.job viewer source.box source.box) (imageSource engine source)
      s.files = .ok tree files →
    GoesThrough engine rule run s
      { sources := run.sources
        writer := run.writer.spec
        viewer
        job := run.job viewer source.box source.box
        tree }
      { s with files }
  | placed {placement : Placement} {composition : Composition Float} {log : List LogRecord}
      {canvas : Canvas Float} {viewer : ViewerConfig} {tree : TileTree} {files files' : Files}
      {sidecars : List (String × Path)} :
    run.options.profile.isGeoreferenced = true →
    run.place engine rule s.log = .ok (placement, composition) log →
    composition.canvas.prepare placement.bounds.total (!run.options.multiband) = .ok canvas →
    ViewerConfig.ofProfile run.options.profile run.options.viewerSettings
      (some (placement.bounds.lonLat.map .real)) = .ok viewer →
    run.writer.generate (run.job viewer placement.bounds.total placement.bounds.data)
      (canvasSource canvas) s.files = .ok tree files →
    Sidecar.emit viewer (run.job viewer placement.bounds.total placement.bounds.data) tree files =
      .ok sidecars files' →
    GoesThrough engine rule run s
      { sources := run.sources
        writer := run.writer.spec
        viewer
        job := run.job viewer placement.bounds.total placement.bounds.data
        tree
        sidecars
        warnings := composition.warnings
        placement := some placement }
      { s with files := files', log }

theorem goesThrough_of_plain {source : RasterSource Float} {rest : List (RasterSource Float)}
    {s s' : Session} {result : MosaicResult}
    (hp : run.options.profile.isGeoreferenced = false) (hsources : run.sources = source :: rest)
    (h : run.plain engine source s = .ok result s') : run.GoesThrough engine rule s result s' := by
  obtain ⟨viewer, hviewer, hafter⟩ := Task.exists_of_ofExcept_bind h
  obtain ⟨tree, files, htree, hafter⟩ := Task.exists_of_onFiles_bind hafter
  cases hafter
  exact .plain hp hsources hviewer htree

theorem goesThrough_of_placed {s s' : Session} {result : MosaicResult}
    (hp : run.options.profile.isGeoreferenced = true)
    (h : run.placed engine rule s = .ok result s') : run.GoesThrough engine rule s result s' := by
  obtain ⟨⟨placement, composition⟩, log, hplace, hafter⟩ := Task.exists_of_ofLogging_bind h
  obtain ⟨canvas, hcanvas, hafter⟩ := Task.exists_of_ofExcept_bind hafter
  obtain ⟨viewer, hviewer, hafter⟩ := Task.exists_of_ofExcept_bind hafter
  obtain ⟨tree, files, htree, hafter⟩ := Task.exists_of_onFiles_bind hafter
  obtain ⟨sidecars, files', hemit, hafter⟩ := Task.exists_of_onFiles_bind hafter
  cases hafter
  exact .placed hp hplace hcanvas hviewer htree hemit

end OpenedRun

namespace Mosaic

variable {engine : Engine Float} {rule : ResolutionRule Float} {options : MosaicOptions}
  {given : Option TileWriter} {s s' : Session}

theorem keepsFiles_opened (engine : Engine Float) (options : MosaicOptions)
    (given : Option TileWriter) : Action.Keeps Session.files (opened engine options given) := by
  have hwriter : Action.Keeps Session.files (writerFor options given) := by
    cases given with
    | some writer => exact .pure writer
    | none => exact .bind Task.keepsFiles_writers fun _ ↦ Task.keepsFiles_ofExcept _
  exact .bind (Task.keepsFiles_ofExcept _) fun _ ↦ .bind hwriter fun _ ↦
    .bind (Task.keepsFiles_ofExcept _) fun _ ↦ .bind (Task.keepsFiles_ofExcept _) fun _ ↦ .pure _

/-- A run gives a result exactly when it was opened and goes through. -/
theorem run_eq_ok_iff {result : MosaicResult} :
    Mosaic.run engine rule options given s = .ok result s' ↔
      ∃ run mid, opened engine options given s = .ok run mid ∧
        run.GoesThrough engine rule mid result s' := by
  constructor
  · intro h
    obtain ⟨run, mid, hopened, hafter⟩ := Action.exists_of_bind_eq_ok h
    have hsame := (opens_of_opened hopened).same
    refine ⟨run, mid, hopened, ?_⟩
    split at hafter
    case isTrue hp => exact OpenedRun.goesThrough_of_placed (hsame ▸ hp) hafter
    case isFalse hp =>
      cases hsources : run.sources with
      | cons source rest =>
        rw [hsources] at hafter
        exact OpenedRun.goesThrough_of_plain (hsame ▸ Bool.eq_false_iff.2 hp) hsources hafter
      | nil =>
        rw [hsources] at hafter
        cases hafter
  · rintro ⟨run, mid, hopened, hthrough⟩
    have hsame := (opens_of_opened hopened).same
    unfold Mosaic.run
    rw [Action.bind_of_eq_ok hopened, ← hsame]
    cases hthrough with
    | plain hp hsources hviewer htree =>
      rw [hp, if_neg (by decide), hsources]
      refine (Task.ofExcept_bind hviewer).trans ?_
      refine (Task.onFiles_bind htree).trans ?_
      rw [← hsources]
      rfl
    | placed hp hplace hcanvas hviewer htree hemit =>
      rw [hp, if_pos rfl]
      refine (Task.ofLogging_bind hplace).trans ?_
      refine (Task.ofExcept_bind hcanvas).trans ?_
      refine (Task.ofExcept_bind hviewer).trans ?_
      refine (Task.onFiles_bind (by exact htree)).trans ?_
      exact (Task.onFiles_bind (by exact hemit)).trans rfl

/-- A run that gives a result was opened, which left the files as they are, and went through. -/
theorem goesThrough_of_run {result : MosaicResult}
    (h : Mosaic.run engine rule options given s = .ok result s') :
    ∃ run mid, Opens engine options given s run ∧ mid.files = s.files ∧
      run.GoesThrough engine rule mid result s' := by
  obtain ⟨run, mid, hopened, hthrough⟩ := run_eq_ok_iff.1 h
  have hfiles := (keepsFiles_opened engine options given).ok s run mid hopened
  exact ⟨run, mid, opens_of_opened hopened, hfiles, hthrough⟩

end Mosaic

/-! ## An image of the globe that is seen at one place -/

namespace Transfer

variable {α : Type} [Scalar α] {t : Transfer α} {project : Projector α} {p : Point α}

/-- The bounds of one point, however often it is seen. -/
theorem extremes?_replicate (p : Point α) (n : Nat) :
    extremes? (List.replicate (n + 1) p) = some ⟨p.x, p.y, p.x, p.y⟩ := by
  rw [List.replicate_succ, extremes?]
  congr 1
  induction n with
  | zero => rfl
  | succ n ih =>
    simpa [List.replicate_succ, Extremes.widen, Scalar.lesser, Scalar.greater] using ih

/-- Where all points of a source go to one place, its box goes to the box around that place. -/
theorem forwardBox_of_const (hforward : t.forward project = .ok fun _ ↦ p)
    (hfinite : isFinitePoint p = true) {box : PixelBox} (hbox : box.isEmpty = false)
    {left top right bottom : α} (hleft : Coordinate.toScalar box.minX = .ok left)
    (htop : Coordinate.toScalar box.minY = .ok top)
    (hright : Coordinate.toScalar box.maxX = .ok right)
    (hbottom : Coordinate.toScalar box.maxY = .ok bottom) :
    t.forwardBox project box = PixelBox.around PixelBox.defaultSlack p.x p.y p.x p.y := by
  have hextremes : t.forwardExtremes project box 33 = .ok (some ⟨p.x, p.y, p.x, p.y⟩) := by
    unfold forwardExtremes
    rw [bind_of_eq_ok hleft, bind_of_eq_ok htop, bind_of_eq_ok hright, bind_of_eq_ok hbottom,
      bind_of_eq_ok hforward, List.map_const', List.filter_replicate, if_pos hfinite]
    exact congrArg Except.ok (extremes?_replicate p _)
  unfold forwardBox
  rw [hbox, if_neg (by decide), if_neg (by decide)]
  exact bind_of_eq_ok hextremes

end Transfer

namespace Mosaic

/-- An image of the whole globe, four pixels wide and two high. -/
def globeImage : RasterSource Float where
  path := ⟨"", ["a.tif"]⟩
  format := .gray
  channel := .uint8
  cols := 4
  rows := 2
  bandCount := 1
  nodata := none
  crs := Crs.ofCode? 4326
  transform := ⟨90, 0, -180, 0, -90, 90⟩

/-- Where it lies. -/
def globePlace : Georeference Float where
  crs := ⟨"EPSG:4326", Crs.geographicNormal Datum.wgs84, Crs.worldEnsemble, true⟩
  transform := globeImage.transform

/-- An engine that finds this image and takes all of its points to one place, where it is opaque. -/
def spotEngine : Engine Float where
  openSource _ := some globeImage
  readSource _ := some (.zeros 1 2 4)
  project _ _ := some fun _ ↦ ⟨-80, 40⟩
  warp _ _ _ box _ := ⟨2, box.height.toNat, box.width.toNat, fun _ _ _ ↦ .whole 7⟩

/-- A globe of sixteen pixels for a viewer that wants two files beside its tiles. -/
def spotOptions : MosaicOptions where
  inputs := [⟨"", ["a.tif"]⟩]
  profile := .celestia
  globalResolution := some 16
  tileSize := 8
  moduleName := .str "Sol/Mars"

/-- The run of these options. -/
def spotRun : OpenedRun := ⟨spotOptions, TileWriter.plan, [globeImage], .str "a"⟩

/-- The one pixel that is laid down. -/
def spotComposition : Composition Float where
  canvas := {
    bands := 2
    channel := .uint8
    views := [⟨⟨2, 1, 1, fun _ _ _ ↦ .whole 7⟩, ⟨4, 4, 5, 5⟩, "a.tif"⟩]
    box := ⟨4, 4, 5, 5⟩
    extent := none
    draft := true }
  insertions := [⟨"a.tif", ⟨4, 4, 5, 5⟩, false⟩]

theorem resolve_globeImage : spotOptions.georeference.resolve [globeImage] =
    .ok ⟨[globePlace], ReferenceSystem.datum globePlace.crs⟩ := by
  have hmoved : globeImage.transform.same Affine.identity = false := by decide +kernel
  have hcarried : globeImage.georeference? = some globePlace :=
    RasterSource.georeference?_eq_some_iff.2 ⟨rfl, hmoved, rfl⟩
  have hsystem : GeoreferenceOptions.systemOf none none globeImage = .ok globePlace.crs :=
    (GeoreferenceOptions.systemOf_none _).trans
      (GeoreferenceOptions.ownSystem_of_declared rfl hmoved)
  have hstill : (Scalar.eq (Scalar.zero : Float) Scalar.zero &&
      Scalar.eq (Scalar.zero : Float) Scalar.zero) = true := by decide +kernel
  have hplacing : GeoreferenceOptions.placing none Scalar.zero Scalar.zero globeImage =
      .ok globePlace.transform := congrArg Except.ok (if_pos hstill)
  refine (GeoreferenceOptions.resolve_singleton_eq_ok_iff rfl).2 ⟨globePlace, ?_, rfl⟩
  refine GeoreferenceOptions.resolveOne_eq_ok_iff.2 ⟨?_, hsystem, hplacing⟩
  rw [hcarried]
  exact nofun

/-- The boxes of the run.  The grid of sample points is left out of the computation: all of them go
to one place. -/
theorem exists_spotBoxes : ∃ output bounds,
    OutputGrid.ofProfile .celestia (ReferenceSystem.datum globePlace.crs)
      (⟨16, 1⟩ : Resolution) = .ok output ∧
    Composition.targetBox spotEngine output 16 ⟨16, 1⟩ globeImage globePlace =
      .ok ⟨4, 4, 5, 5⟩ ∧
    PyramidBounds.align spotEngine.project .celestia ⟨4, 4, 5, 5⟩ ⟨16, 1⟩ output (8 : Int) =
      .ok bounds ∧
    bounds.total = ⟨0, 0, 16, 16⟩ ∧ bounds.data = ⟨0, 0, 8, 8⟩ := by
  have hcheck : (do
      let output ← OutputGrid.ofProfile .celestia (ReferenceSystem.datum globePlace.crs)
        (⟨16, 1⟩ : Resolution)
      let back ← output.pointToPixel
      let p : Point Float := back ⟨-80, 40⟩
      let box ← PixelBox.around PixelBox.defaultSlack p.x p.y p.x p.y
      let bounds ← PyramidBounds.align spotEngine.project .celestia ⟨4, 4, 5, 5⟩ ⟨16, 1⟩ output
        (8 : Int)
      pure (Transfer.isFinitePoint p, box, bounds.total, bounds.data)).toOption =
        some (true, ⟨4, 4, 5, 5⟩, ⟨0, 0, 16, 16⟩, ⟨0, 0, 8, 8⟩) := by
    decide +kernel
  obtain ⟨output, houtput, hcheck⟩ := exists_of_bind_eq_ok (eq_ok_of_toOption hcheck)
  obtain ⟨back, hback, hcheck⟩ := exists_of_bind_eq_ok hcheck
  obtain ⟨box, hbox, hcheck⟩ := exists_of_bind_eq_ok hcheck
  obtain ⟨bounds, hbounds, hcheck⟩ := exists_of_bind_eq_ok hcheck
  injection hcheck with hcheck
  simp only [Prod.mk.injEq] at hcheck
  obtain ⟨hfinite, rfl, htotal, hdata⟩ := hcheck
  refine ⟨output, bounds, houtput, ?_, hbounds, htotal, hdata⟩
  have hforward : Transfer.forward ⟨globePlace, output⟩ spotEngine.project =
      .ok fun _ ↦ back ⟨-80, 40⟩ := bind_of_eq_ok hback
  unfold Composition.targetBox
  rw [Transfer.forwardBox_of_const hforward hfinite rfl rfl rfl rfl rfl, hbox]
  rfl

theorem exists_place_spotRun : ∃ placement,
    spotRun.place spotEngine (fun _ _ _ _ ↦ .ok 0) [] = .ok (placement, spotComposition) [] ∧
    placement.resolution = ⟨16, 1⟩ ∧ placement.bounds.total = ⟨0, 0, 16, 16⟩ ∧
    placement.bounds.data = ⟨0, 0, 8, 8⟩ := by
  obtain ⟨output, bounds, houtput, htarget, hbounds, htotal, hdata⟩ := exists_spotBoxes
  have hglobal : (globePlace.isGlobal spotEngine.project 4 2).toOption.isSome = true := by
    decide +kernel
  obtain ⟨wrap, hwrap⟩ := Option.isSome_iff_exists.1 hglobal
  have hestimate : Resolution.estimate (fun _ _ _ _ ↦ .ok 0) .celestia [(globeImage, globePlace)] 1
      (some 16) = (.ok ⟨16, 1⟩ : Except Fault Resolution) := rfl
  have hcolumns : (⟨16, 1⟩ : Resolution).columns = .ok 16 := rfl
  have hadd : Composition.addSource spotEngine (spotRun.composeSettings none) output ⟨16, 1⟩ 16
      .uint8 1 { canvas := Canvas.new 2 .uint8 } globeImage globePlace [] =
        .ok spotComposition [] := by
    refine (Logging.ofExcept_bind (eq_ok_of_toOption hwrap)).trans ?_
    exact (Logging.ofExcept_bind htarget).trans rfl
  have hcompose : Composition.compose spotEngine (spotRun.composeSettings none) output ⟨16, 1⟩
      [(globeImage, globePlace)] [] = .ok spotComposition [] :=
    (Composition.compose_eq rfl rfl rfl hcolumns []).trans (Action.bind_of_eq_ok hadd)
  let placement : Placement :=
    ⟨ReferenceSystem.datum globePlace.crs, ⟨16, 1⟩, output, ⟨4, 4, 5, 5⟩, bounds⟩
  refine ⟨placement, ?_, rfl, htotal, hdata⟩
  refine (Logging.ofExcept_bind resolve_globeImage).trans ?_
  refine (Logging.ofExcept_bind hestimate).trans ?_
  refine (Logging.ofExcept_bind houtput).trans ?_
  refine (Action.bind_of_eq_ok (show spotRun.range spotEngine [] = .ok none [] from rfl)).trans ?_
  refine (Action.bind_of_eq_ok hcompose).trans ?_
  exact (Logging.ofExcept_bind hbounds).trans rfl

/-- What an action that went through has written. -/
def written? {σ β : Type} (files : σ → Files) : EStateM.Result Fault σ β → Option (List Path)
  | .ok _ s => some (files s).written
  | .error _ _ => none

/-- The run lays one pixel down, and writes a plan and the two files of its viewer. -/
theorem exists_run_spotOptions : ∃ result s',
    Mosaic.run spotEngine (fun _ _ _ _ ↦ .ok 0) spotOptions (some TileWriter.plan) {} =
      .ok result s' ∧
    (∃ p, result.placement = some p ∧ p.resolution = ⟨16, 1⟩ ∧
      p.bounds.total = ⟨0, 0, 16, 16⟩ ∧ p.bounds.data = ⟨0, 0, 8, 8⟩) ∧
    s'.files.written = [⟨"", ["a.tiles.json"]⟩, ⟨"", ["a.ctx"]⟩, ⟨"", ["a.ssc"]⟩] := by
  obtain ⟨placement, hplace, hresolution, htotal, hdata⟩ := exists_place_spotRun
  have hopened : opened spotEngine spotOptions (some TileWriter.plan) {} = .ok spotRun {} := rfl
  let viewer : ViewerConfig := .celestia (.str "Sol/Mars")
  let job := spotRun.job viewer ⟨0, 0, 16, 16⟩ ⟨0, 0, 8, 8⟩
  let canvas := { spotComposition.canvas with extent := some ⟨0, 0, 16, 16⟩ }
  have hwritten : written? id ((TileWriter.plan.generate job (OpenedRun.canvasSource canvas) >>=
      Sidecar.emit viewer job) {}) =
        some [⟨"", ["a.tiles.json"]⟩, ⟨"", ["a.ctx"]⟩, ⟨"", ["a.ssc"]⟩] := by
    decide +kernel
  cases hwrite : (TileWriter.plan.generate job (OpenedRun.canvasSource canvas) >>=
      Sidecar.emit viewer job) {} with
  | error e files =>
    rw [hwrite] at hwritten
    cases hwritten
  | ok sidecars files =>
    rw [hwrite] at hwritten
    obtain ⟨tree, mid, htree, hemit⟩ := Action.exists_of_bind_eq_ok hwrite
    have hcanvas : spotComposition.canvas.prepare placement.bounds.total true = .ok canvas := by
      rw [htotal]
      rfl
    have hjob : job = spotRun.job viewer placement.bounds.total placement.bounds.data := by
      rw [htotal, hdata]
    rw [hjob] at htree hemit
    exact ⟨_, _, run_eq_ok_iff.2 ⟨_, _, hopened, .placed rfl hplace hcanvas rfl htree hemit⟩,
      ⟨placement, rfl, hresolution, htotal, hdata⟩, Option.some.inj hwritten⟩

end Mosaic

end QuadMosaic
