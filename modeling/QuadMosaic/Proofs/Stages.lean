import QuadMosaic.Proofs.Columns
import QuadMosaic.Proofs.Files
import QuadMosaic.Proofs.Overrides
import QuadMosaic.Run.Mosaic

/-!
# Stages that do not refuse

Every stage of a run fails in its own ways; here it is said when it does not refuse the options of
the run.  Most stages never do.  The others ask for something that they are given in this case:
bounds typed by hand for one image, a datum that can be made, a profile on the globe, a range to
normalise by, a module name or a box for the viewer.
-/

namespace QuadMosaic

/-- A failure that does not blame the options. -/
def Fault.NotConfig : Fault → Prop
  | .config _ => False
  | _ => True

/-- A result that is never refused on account of the options. -/
abbrev NeverRefuses {β : Type} (x : Except Fault β) : Prop := FailsOnly Fault.NotConfig x

/-! ## Steps of the stages -/

variable {α : Type}

theorem Projector.neverRefuses_between (project : Projector α) (source target : Crs) :
    NeverRefuses (project.between source target) := by
  unfold Projector.between
  split
  · exact .ok _
  · exact .error trivial

theorem Engine.neverRefuses_pixelsOf (engine : Engine α) (source : RasterSource α) :
    NeverRefuses (engine.pixelsOf source) := by
  unfold pixelsOf
  split
  · exact .ok _
  · exact .error trivial

namespace Canvas

theorem neverRefuses_insert {κ : Type} [Coordinate κ] (c : Canvas α κ) (block : Block α) (x y : κ)
    (label : String) : NeverRefuses (c.insert block x y label) := by
  refine .bind (.ite (.error trivial) ?_) fun _ _ ↦ .ok _
  split
  · exact .error trivial
  · exact .ite (.error trivial) (.ok _)

theorem neverRefuses_prepare {κ : Type} (c : Canvas α κ) (extent : PixelBox κ) (draft : Bool) :
    NeverRefuses (c.prepare extent draft) :=
  .ite (.error trivial) (.ok _)

end Canvas

variable [Scalar α]

theorem neverRefuses_ofWhole (n : Int) : NeverRefuses (Scalar.ofWhole n : Except Fault α) :=
  (FailsOnly.ofWhole α n).mono fun _ he ↦ he ▸ trivial

theorem neverRefuses_toInt (r : Rounded) : NeverRefuses (Scalar.toInt r) := by
  cases r with
  | whole n => exact .ok n
  | infinite _ => exact .error trivial
  | undefined => exact .error trivial

theorem neverRefuses_build {C : Type} [ReferenceSystem C] (projection : Fields) (datum : Datum) :
    NeverRefuses (ReferenceSystem.build projection datum : Except Fault C) :=
  (FailsOnly.build projection datum).mono fun _ ⟨_, he⟩ ↦ he ▸ trivial

namespace Georeference

theorem neverRefuses_geographic (datum : Datum) (transform : Affine α) :
    NeverRefuses (geographic datum transform : Except Fault (Georeference α)) :=
  .bind (neverRefuses_build _ _) fun _ _ ↦ .ok _

theorem neverRefuses_pointToPixel (g : Georeference α) : NeverRefuses g.pointToPixel :=
  .bind (.ite (.error trivial) (.ok _)) fun _ _ ↦ .ok _

theorem neverRefuses_isGlobal (g : Georeference α) (project : Projector α) (cols rows : Nat) :
    NeverRefuses (g.isGlobal project cols rows) :=
  .ite (.ok _) (.bind (.bind (project.neverRefuses_between _ _) fun _ _ ↦
    .bind g.neverRefuses_pointToPixel fun _ _ ↦ .ok _) fun _ _ ↦ .ok _)

end Georeference

theorem Transfer.neverRefuses_forward (t : Transfer α) (project : Projector α) :
    NeverRefuses (t.forward project) :=
  .bind (project.neverRefuses_between _ _) fun _ _ ↦
    .bind t.destination.neverRefuses_pointToPixel fun _ _ ↦ .ok _

theorem Transfer.neverRefuses_forwardBox (t : Transfer α) (project : Projector α) (box : PixelBox)
    (samples : Int) : NeverRefuses (t.forwardBox project box samples) := by
  refine .ite (.ok _) (.ite (.error trivial) (.bind ?extremes fun found _ ↦ ?box))
  case extremes =>
    exact .bind (neverRefuses_ofWhole _) fun _ _ ↦ .bind (neverRefuses_ofWhole _) fun _ _ ↦
      .bind (neverRefuses_ofWhole _) fun _ _ ↦ .bind (neverRefuses_ofWhole _) fun _ _ ↦
        .bind (t.neverRefuses_forward project) fun _ _ ↦ .ok _
  case box =>
    split
    · exact .ok _
    · exact .bind (neverRefuses_toInt _) fun _ _ ↦ .bind (neverRefuses_toInt _) fun _ _ ↦
        .bind (neverRefuses_toInt _) fun _ _ ↦ .bind (neverRefuses_toInt _) fun _ _ ↦ .ok _

/-! ## The stages of a run -/

section

namespace GeoreferenceOptions

theorem neverRefuses_resolveOne (o : GeoreferenceOptions α) (datum : Option Datum)
    (source : RasterSource α) : NeverRefuses (o.resolveOne datum source) :=
  (failsOnly_resolveOne o datum source).mono fun _ he ↦ by cases he <;> trivial

/-- Sources get their georeferences: there are some, they are one where bounds are typed by hand,
and the datum is one that was checked. -/
theorem neverRefuses_resolve {o : GeoreferenceOptions α} {sources : List (RasterSource α)}
    (hsources : sources ≠ []) (hbounds : o.manualBounds.isSome = true → sources.length = 1)
    (hdatum : ∃ d, o.datum.datum o.sphereRadius = .ok d) : NeverRefuses (o.resolve sources) := by
  obtain ⟨d, hd⟩ := hdatum
  unfold resolve
  rw [if_neg hsources, if_neg fun h ↦ h.2 (hbounds h.1), bind_of_eq_ok hd]
  refine .bind (.mapM fun source _ ↦ o.neverRefuses_resolveOne d source) fun found hfound ↦ ?_
  split
  case h_1 =>
    have := length_of_mapM hfound
    exact absurd (List.eq_nil_of_length_eq_zero this.symm) hsources
  case h_2 => exact .ok _

end GeoreferenceOptions

namespace Resolution

variable {project : Projector Float} {profile : Profile}

theorem neverRefuses_pixelsFor (step : Float) : NeverRefuses (pixelsFor step) :=
  .ite (.ok _) (.ite (.ok _)
    (.bind (.bind (neverRefuses_toInt _) fun _ _ ↦ .ok _) fun _ _ ↦ .ok _))

theorem neverRefuses_geodetic (hp : profile.isGeoreferenced = true) (transfer : Transfer Float)
    (x y : Int) : NeverRefuses (geodetic project profile transfer x y) := by
  unfold geodetic geodeticAt
  rw [hp]
  exact .bind (transfer.neverRefuses_forward project) fun _ _ ↦ neverRefuses_pixelsFor _

theorem neverRefuses_estimate {rule : ResolutionRule α}
    (hrule : ∀ transfer x y, NeverRefuses (rule profile transfer x y))
    (sources : List (RasterSource α × Georeference α)) (aspectRatio : Int)
    (override : Option Int) :
    NeverRefuses (estimate rule profile sources aspectRatio override :
      Except Fault Resolution) := by
  refine .bind (.foldlM (fun total source _ ↦ ?_) _) fun _ _ ↦ .ok _
  exact .bind (Georeference.neverRefuses_geographic _ _).ofExcept fun target _ ↦
    .foldlM (fun _ place _ ↦ .bind (hrule _ _ _) fun _ _ ↦ .ok _) _

end Resolution

omit [Scalar α] in
theorem PixelOptions.rangeAbsent_eq_false {o : PixelOptions α} {range : Option (PixelRange α)}
    (h : o.normalize = true → range.isSome = true) : (o.normalize && range.isNone) = false := by
  cases hnormalize : o.normalize with
  | false => rfl
  | true => rw [Option.isNone_eq_false_iff.2 (h hnormalize), Bool.true_and]

theorem Planes.neverRefuses_bandCount (given : Nat) (wanted : Int) :
    NeverRefuses (bandCount given wanted) := by
  refine .ite (.ok _) (.ite (.ok _) ?_)
  split
  · exact .error trivial
  · exact .ite (.error trivial) (.ite (.error trivial) (.ok _))

/-- An adjustment that normalises needs a range. -/
theorem RasterSource.neverRefuses_adjust {o : PixelOptions α} {range : Option (PixelRange α)}
    (h : o.normalize = true → range.isSome = true) (s : RasterSource α) (pixels : Raster α)
    (channel : ChannelType) (colorBands : Nat) :
    NeverRefuses (s.adjust pixels o channel colorBands range) := by
  unfold adjust
  rw [PixelOptions.rangeAbsent_eq_false h]
  exact .ok _

theorem Resolution.neverRefuses_columns (r : Resolution) : NeverRefuses r.columns :=
  .ite (.error trivial) (.ok _)

namespace Canvas

theorem neverRefuses_read (c : Canvas α) (window : PixelBox) : NeverRefuses (c.read window) := by
  refine .ite (.error trivial) (.ite (.error trivial)
    (.bind (.foldlM (fun sheet v _ ↦ ?_) _) fun _ _ ↦ .ok _))
  refine .ite (.ok _) (.bind (.bind ?_ fun _ _ ↦ .ok _) fun placed _ ↦ ?_)
  · unfold PixelBox.indices
    split
    · exact .ok _
    · exact .error trivial
  · exact .ite (.error trivial) (.ite (.error trivial) (.ok _))

end Canvas

namespace Composition

omit [Scalar α] in
theorem neverRefuses_lay (pixels : Raster α) (minY : Int) (label : String)
    (origins : List (Int × Bool)) (c : Composition α) :
    NeverRefuses (lay pixels minY label origins c) := by
  induction origins generalizing c with
  | nil => exact .ok c
  | cons origin origins ih => exact .bind (c.canvas.neverRefuses_insert _ _ _ _) fun _ _ ↦ ih _

omit [Scalar α] in
theorem neverRefuses_channelOf (settings : ComposeSettings α) (sources : List (RasterSource α)) :
    NeverRefuses (channelOf settings sources) := by
  unfold channelOf
  split
  · exact .ok _
  · exact .ok _
  · exact .error trivial

omit [Scalar α] in
theorem neverRefuses_colorBandsOf (settings : ComposeSettings α)
    (sources : List (RasterSource α)) : NeverRefuses (colorBandsOf settings sources) := by
  unfold colorBandsOf
  split
  · exact .ok _
  · exact .ok _
  · exact .error trivial

theorem raisesOnly_addSource {settings : ComposeSettings α}
    (h : settings.pixels.normalize = true → settings.range.isSome = true) (engine : Engine α)
    (output : Georeference α) (resolution : Resolution) (columns : Int) (channel : ChannelType)
    (colorBands : Nat) (c : Composition α) (source : RasterSource α) (g : Georeference α) :
    RaisesOnly Fault.NotConfig
      (addSource engine settings output resolution columns channel colorBands c source g) := by
  refine .bind (.logging (g.neverRefuses_isGlobal _ _ _)) fun _ wrap _ _ ↦ ?_
  refine .bind (.logging (.bind (Transfer.neverRefuses_forwardBox _ _ _ _) fun _ _ ↦ .ok _))
    fun _ box _ _ ↦ ?_
  split
  · exact .bind (.modify _) fun _ _ _ _ ↦ .pure _
  · refine .bind (.logging (.bind (engine.neverRefuses_pixelsOf source) fun pixels _ ↦
      .bind (Planes.neverRefuses_bandCount _ _) fun _ _ ↦
        .bind (source.neverRefuses_adjust h _ _ _) fun _ _ ↦ .ok _)) fun _ _ _ _ ↦ ?_
    exact .logging (neverRefuses_lay _ _ _ _ _)

/-- Composing that normalises needs a range. -/
theorem raisesOnly_compose {settings : ComposeSettings α}
    (h : settings.pixels.normalize = true → settings.range.isSome = true) (engine : Engine α)
    (output : Georeference α) (resolution : Resolution)
    (sources : List (RasterSource α × Georeference α)) :
    RaisesOnly Fault.NotConfig (compose engine settings output resolution sources) := by
  unfold compose
  rw [PixelOptions.rangeAbsent_eq_false h, if_neg (by decide)]
  simp only
  split
  case' isTrue => refine .bind (.modify _) fun _ _ _ _ ↦ ?_
  -- with or without the warning, the sources are laid down one after the other
  all_goals
    refine .bind (.logging (neverRefuses_channelOf _ _)) fun _ _ _ _ ↦ ?_
    refine .bind (.logging (neverRefuses_colorBandsOf _ _)) fun _ _ _ _ ↦ ?_
    refine .bind (.logging resolution.neverRefuses_columns) fun _ _ _ _ ↦ ?_
    exact .foldlM (fun c placed _ ↦ raisesOnly_addSource h _ _ _ _ _ _ _ _ _) _

end Composition

/-- The first pass of normalising refuses options when it finds no pixel with data, and only
then. -/
theorem PixelRange.raisesOnly_observe (engine : Engine α) (nodata : Option α)
    (sources : List (RasterSource α)) :
    RaisesOnly (fun e ↦ e.NotConfig ∨ e = .config .noValidPixel)
      (observe engine nodata sources) := by
  refine .bind (.mapM fun source _ ↦ ?_) fun _ _ _ _ ↦ ?_
  · refine .bind (.logging ((engine.neverRefuses_pixelsOf source).mono fun _ ↦ .inl))
      fun _ _ _ _ ↦ ?_
    split
    · exact .pure _
    · exact .bind (.modify _) fun _ _ _ _ ↦ .pure _
  · split
    · exact .pure _
    · exact .throw (.inr rfl)

namespace PyramidBounds

theorem neverRefuses_degrees (turn x : Int) : NeverRefuses (degrees turn x : Except Fault α) :=
  .bind (neverRefuses_ofWhole x) fun _ _ ↦ .bind (neverRefuses_ofWhole turn) fun _ _ ↦
    .ite (.error trivial) (.ok _)

theorem neverRefuses_alignRegion (raw : PixelBox) (r : Resolution) :
    NeverRefuses (alignRegion raw r : Except Fault (PyramidBounds α)) := by
  refine .bind r.neverRefuses_columns fun columns _ ↦ .ite (.error trivial)
    (.bind ?square fun square _ ↦ .bind ?lonLat fun _ _ ↦ .ok _)
  case square =>
    exact .bind r.neverRefuses_columns fun _ _ ↦ .ite (.error trivial) (.ok _)
  case lonLat =>
    exact .bind r.neverRefuses_columns fun _ _ ↦ .bind (neverRefuses_degrees _ _) fun _ _ ↦
      .bind (neverRefuses_degrees _ _) fun _ _ ↦ .bind (neverRefuses_degrees _ _) fun _ _ ↦
        .bind (neverRefuses_degrees _ _) fun _ _ ↦ .ok _

theorem neverRefuses_alignGlobe (project : Projector α) (raw : PixelBox) (r : Resolution)
    (output : Georeference α) (size : Int) :
    NeverRefuses (alignGlobe project raw r output size) := by
  refine .bind (.ite (.error trivial) (.ok _)) fun _ _ ↦
    .ite (.error trivial) (.bind ?_ fun _ _ ↦ .ok _)
  exact .bind (neverRefuses_ofWhole _) fun _ _ ↦ .bind (neverRefuses_ofWhole _) fun _ _ ↦
    .bind (.bind (project.neverRefuses_between _ _) fun _ _ ↦ .ok _) fun _ _ ↦
      .bind (neverRefuses_ofWhole _) fun _ _ ↦ .bind (neverRefuses_ofWhole _) fun _ _ ↦ .ok _

theorem neverRefuses_align (project : Projector α) (profile : Profile) (raw : PixelBox)
    (r : Resolution) (output : Georeference α) (size : Int) :
    NeverRefuses (align project profile raw r output size) :=
  .ite (neverRefuses_alignRegion raw r) (neverRefuses_alignGlobe project raw r output size)

end PyramidBounds

theorem OutputGrid.neverRefuses_ofProfile [LawfulScalar α] {profile : Profile}
    (hp : profile.isGeoreferenced = true) (datum : Datum) (r : Resolution) :
    NeverRefuses (ofProfile profile datum r : Except Fault (Georeference α)) :=
  (failsOnly_ofProfile hp datum).mono fun e he ↦ by cases he <;> trivial

end

/-- A viewer is told a module name where it needs one, and a box where it needs one. -/
theorem ViewerConfig.neverRefuses_ofProfile {profile : Profile} {settings : ViewerSettings}
    {box : Option (LonLatBox Quantity)} (hbox : profile.isGeoreferenced = true → box.isSome = true)
    (hname : profile = .uniview ∨ profile = .celestia → settings.moduleName.isGiven = true) :
    NeverRefuses (ofProfile profile settings box) := by
  have hrequireBox (p : Profile) (hp : profile.isGeoreferenced = true) :
      NeverRefuses (requireBox p box) := by
    obtain ⟨b, rfl⟩ := Option.isSome_iff_exists.1 (hbox hp)
    exact .ok b
  have hrequireModule (p : Profile) (hp : profile = .uniview ∨ profile = .celestia) :
      NeverRefuses (requireModule p settings) := by
    unfold requireModule
    rw [if_pos (hname hp)]
    exact .ok _
  cases profile with
  | kml | gigapan => exact .bind (hrequireBox _ rfl) fun _ _ ↦ .ok _
  | uniview => exact .bind (hrequireModule _ (.inl rfl)) fun _ _ ↦ .ok _
  | celestia => exact .bind (hrequireModule _ (.inr rfl)) fun _ _ ↦ .ok _
  | tms | gmap | none | gigapanNoproj => exact .ok _

/-! ## Files -/

theorem Fault.Foreign.notConfig {e : Fault} (h : e.Foreign) : e.NotConfig := by
  cases e with
  | config cause => cases h
  | _ => trivial

theorem RaisesOnly.writing {β : Type} {P : Fault → Prop} {r : Except Fault β}
    (h : FailsOnly P r) : RaisesOnly P (Writing.ofExcept r) :=
  lift (fun _ ↦ rfl) (fun _ ↦ rfl) h

theorem Writing.foreign_write (path : Path) (text : String) :
    RaisesOnly Fault.Foreign (Writing.write path text) :=
  .bind (fun _ _ _ h ↦ by cases h) fun _ files _ _ ↦
    .bind (.writing (files.foreign_write path text)) fun _ _ _ _ _ _ _ h ↦ by cases h

/-- The files beside a pyramid are written without a look at the options. -/
theorem Sidecar.foreign_emit (config : ViewerConfig) (job : TileJob) (tree : TileTree) :
    RaisesOnly Fault.Foreign (emit config job tree) := by
  have htitle : FailsOnly Fault.Foreign (title job) := by
    unfold title
    split
    · exact .ok _
    · exact .error rfl
  have hdeepest : FailsOnly Fault.Foreign (deepest tree) := by
    refine .bind ?_ fun _ _ ↦ .ok _
    cases tree.levels with
    | bool | int | real => exact .ok _
    | null | str | arr | obj => exact .error rfl
  unfold emit
  split
  · exact .bind (.writing htitle) fun _ _ _ _ ↦ .bind (.writing hdeepest) fun _ _ _ _ ↦
      .bind (Writing.foreign_write _ _) fun _ _ _ _ ↦ .pure _
  · exact .bind (.writing htitle) fun _ _ _ _ ↦ .bind (Writing.foreign_write _ _)
      fun _ _ _ _ ↦ .bind (Writing.foreign_write _ _) fun _ _ _ _ ↦ .pure _
  · exact .pure _

/-! ## The built-in writer -/

theorem LevelRule.neverRefuses_rounded (span size : Nat) :
    NeverRefuses (LevelRule.rounded span size) :=
  .ite (.error trivial) (.ite (.ok _) (.ok _))

/-- The built-in writer does not refuse pixels that can be read without a refusal. -/
theorem TileWriter.raisesOnly_plan (job : TileJob) {source : TileSource Float}
    (hread : ∀ window, NeverRefuses (source.read window)) :
    RaisesOnly Fault.NotConfig (TileWriter.plan.generate job source) := by
  have hoccupied (t : Tile) : NeverRefuses (job.isOccupied source source.hasAlpha t) := by
    exact .ite (.ok _) (.bind (hread _) fun _ _ ↦ .ite (.ok _) (.ite (.error trivial) (.ok _)))
  have hleaves : NeverRefuses (job.leaves source source.hasAlpha) := by
    exact .ite (.ok _) (.ite (.error trivial) (.filterM fun t _ ↦ hoccupied t))
  have hlevels : NeverRefuses (treeLevels .rounded job.extent job.tileSize) := by
    exact .ite (.ok _) (.ite (.error trivial) (.ite (.error trivial)
      (.bind (LevelRule.neverRefuses_rounded _ _) fun _ _ ↦ .ok _)))
  exact .bind (.writing (.bind hlevels fun _ _ ↦ .bind hleaves fun _ _ ↦ .ok _))
    fun _ _ _ _ ↦ .bind ((Writing.foreign_write _ _).mono fun _ he ↦ he.notConfig)
      fun _ _ _ _ ↦ .pure _

end QuadMosaic
