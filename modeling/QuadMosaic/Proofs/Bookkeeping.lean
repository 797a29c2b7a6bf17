import QuadMosaic.Proofs.Antimeridian

/-!
# The books of a composition

A composition keeps three accounts while it goes through its sources: the views on the canvas, the
insertions and the warnings.  Every source adds to them in one of two ways.  Either it overlaps the
extent and is laid down once or twice, its copy a full turn away first, with one insertion for each
view and no warning; or it does not and leaves one warning and nothing else.  So the accounts of a
whole composition are those of its sources one after the other, and a source that was left out might
as well not have been there.
-/

namespace QuadMosaic

/-- Pixels that fill a box, laid down where it lies. -/
theorem View.box_laidAt {α : Type} {box : PixelBox} {pixels : Raster α}
    (hsize : box.IsSized pixels.rows pixels.cols) (label : String) :
    (View.laidAt pixels box.minY label box.minX).box = box := by
  obtain ⟨hcols, hrows⟩ := hsize
  simp only [View.laidAt, PixelBox.ofSize, ← hcols, ← hrows]

namespace Composition

variable {α : Type}

/-- What one source adds to a composition. -/
structure Contribution (α : Type) where
  views : List (View α) := []
  insertions : List Insertion := []
  warnings : List String := []

/-- What several sources add, one after the other. -/
def Contribution.all (parts : List (Contribution α)) : Contribution α where
  views := parts.flatMap (·.views)
  insertions := parts.flatMap (·.insertions)
  warnings := parts.flatMap (·.warnings)

/-- What a composition has grown by. -/
structure Adds (c : Composition α) (p : Contribution α) (c' : Composition α) : Prop where
  views : c'.canvas.views = c.canvas.views ++ p.views
  insertions : c'.insertions = c.insertions ++ p.insertions
  warnings : c'.warnings = c.warnings ++ p.warnings

theorem Adds.refl (c : Composition α) : c.Adds (.all []) c :=
  ⟨(List.append_nil _).symm, (List.append_nil _).symm, (List.append_nil _).symm⟩

theorem Adds.cons {c mid c' : Composition α} {p : Contribution α} {parts : List (Contribution α)}
    (h : c.Adds p mid) (h' : mid.Adds (.all parts) c') : c.Adds (.all (p :: parts)) c' where
  views := by
    rw [h'.views, h.views, List.append_assoc]
    rfl
  insertions := by
    rw [h'.insertions, h.insertions, List.append_assoc]
    rfl
  warnings := by
    rw [h'.warnings, h.warnings, List.append_assoc]
    rfl

/-! ## One box -/

section

variable {c c' : Composition α} {pixels : Raster α} {minY : Int} {label : String}

/-- Pixels laid down leave one view and one insertion for each origin, and no warning. -/
theorem adds_of_lay {origins : List (Int × Bool)} (h : lay pixels minY label origins c = .ok c') :
    c.Adds {
      views := origins.map fun o ↦ View.laidAt pixels minY label o.1
      insertions := origins.map fun o ↦ ⟨label, (View.laidAt pixels minY label o.1).box, o.2⟩ }
      c' := by
  have hrest : c'.insertions = c.insertions ++ origins.map (fun o ↦
      ⟨label, (View.laidAt pixels minY label o.1).box, o.2⟩) ∧ c'.warnings = c.warnings := by
    induction origins generalizing c with
    | nil =>
      cases h
      exact ⟨(List.append_nil _).symm, rfl⟩
    | cons o origins ih =>
      obtain ⟨x, wrapped⟩ := o
      obtain ⟨⟨canvas, view⟩, hinsert, h⟩ := exists_of_bind_eq_ok h
      obtain ⟨rfl, -⟩ := of_insert hinsert
      obtain ⟨hinsertions, hwarnings⟩ := ih h
      exact ⟨by rw [hinsertions, List.append_assoc]; rfl, hwarnings⟩
  exact ⟨views_of_lay h, hrest.1, hrest.2.trans (List.append_nil _).symm⟩

/-- What is laid down does not depend on the warnings so far. -/
theorem lay_with_warnings (warnings : List String) {origins : List (Int × Bool)}
    (h : lay pixels minY label origins c = .ok c') :
    lay pixels minY label origins { c with warnings } = .ok { c' with warnings } := by
  induction origins generalizing c with
  | nil =>
    cases h
    rfl
  | cons o origins ih =>
    obtain ⟨x, wrapped⟩ := o
    obtain ⟨⟨canvas, view⟩, hinsert, h⟩ := exists_of_bind_eq_ok h
    rw [lay, bind_of_eq_ok hinsert]
    exact ih h

end

/-! ## One source -/

variable [Scalar α] {engine : Engine α} {settings : ComposeSettings α} {output : Georeference α}
  {resolution : Resolution} {columns : Int} {channel : ChannelType} {colorBands : Nat}
  {placed : RasterSource α × Georeference α} {box : PixelBox} {c c' : Composition α}
  {log log' : List LogRecord}

/-- Whether a source has pixels in the extent. -/
def overlaps (engine : Engine α) (output : Georeference α) (resolution : Resolution)
    (columns : Int) (placed : RasterSource α × Georeference α) : Bool :=
  match targetBox engine output columns resolution placed.1 placed.2 with
  | .ok box => !box.isEmpty
  | .error _ => false

theorem overlaps_eq (htarget : targetBox engine output columns resolution placed.1 placed.2 =
    .ok box) : overlaps engine output resolution columns placed = !box.isEmpty := by
  unfold overlaps
  rw [htarget]

/-- How a source is entered in the accounts. -/
structure Contribution.IsOf (engine : Engine α) (output : Georeference α) (resolution : Resolution)
    (columns : Int) (placed : RasterSource α × Georeference α) (p : Contribution α) : Prop where
  /-- The insertions are those of the views, which bear the label of the source. -/
  insertions : p.insertions.map (fun i ↦ (i.label, i.box)) = p.views.map fun v ↦ (v.label, v.box)
  label : ∀ v ∈ p.views, v.label = placed.1.label
  /-- A source outside the extent is left out with a warning. -/
  skipped : overlaps engine output resolution columns placed = false →
    p.views = [] ∧ p.warnings = [noOverlap placed.1.path]
  /-- Any other one is laid down once or twice, its copy a full turn away first. -/
  laid : overlaps engine output resolution columns placed = true →
    p.warnings = [] ∧ (p.views.length = 1 ∨ p.views.length = 2) ∧
      p.insertions.map (·.wrapped) ∈ [[true], [false], [true, false]]
  /-- The copy lies a full turn further left. -/
  turned : ∀ i j, p.insertions = [i, j] → i.box = j.box.shift (-resolution.total) 0
  /-- The source itself lies in the extent. -/
  inside : ∀ i ∈ p.insertions, i.wrapped = false →
    i.box.Inside (extent columns resolution.rows resolution.total)

/-- A box that holds a pixel has an origin, whether it lies left of the right edge or passes it. -/
theorem wrapped_of_origins {box : PixelBox} (columns total : Int) (h : box.isEmpty = false) :
    (origins box columns total).map (·.2) ∈ [[true], [false], [true, false]] := by
  obtain ⟨hwidth, -⟩ := PixelBox.not_isEmpty_iff.1 h
  unfold origins
  by_cases hright : columns < box.maxX
  · by_cases hleft : box.minX < columns
    · simp [hright, hleft]
    · simp [hright, hleft]
  · have hleft : box.minX < columns := by omega
    simp [hright, hleft]

/-- The box of a source lies in the extent. -/
theorem inside_of_targetBox {source : RasterSource α} {georeference : Georeference α}
    {box : PixelBox} (h : targetBox engine output columns resolution source georeference = .ok box)
    (hbox : box.isEmpty = false) :
    box.Inside (extent columns resolution.rows resolution.total) := by
  obtain ⟨around, -, h⟩ := exists_of_bind_eq_ok h
  cases h
  exact (PixelBox.inside_crop hbox).2

/-- The entry of a source that is laid down at the origins of its box. -/
theorem isOf_origins {box : PixelBox} {pixels : Raster α}
    (htarget : targetBox engine output columns resolution placed.1 placed.2 = .ok box)
    (hbox : box.isEmpty = false) (hsize : box.IsSized pixels.rows pixels.cols) :
    Contribution.IsOf engine output resolution columns placed {
      views := (origins box columns resolution.total).map fun o ↦
        View.laidAt pixels box.minY placed.1.label o.1
      insertions := (origins box columns resolution.total).map fun o ↦
        ⟨placed.1.label, (View.laidAt pixels box.minY placed.1.label o.1).box, o.2⟩ } := by
  have hoverlaps : overlaps engine output resolution columns placed = true :=
    (overlaps_eq htarget).trans (congrArg (!·) hbox)
  have hwrapped := wrapped_of_origins columns resolution.total hbox
  constructor
  case insertions =>
    rw [List.map_map, List.map_map]
    rfl
  case label =>
    intro v hv
    obtain ⟨o, -, rfl⟩ := List.mem_map.1 hv
    rfl
  case skipped => exact fun h ↦ absurd (hoverlaps.symm.trans h) (by decide)
  case laid =>
    refine fun _ ↦ ⟨rfl, ?_, ?_⟩
    · rw [List.length_map, ← List.length_map (·.2)]
      simp only [List.mem_cons, List.not_mem_nil, or_false] at hwrapped
      rcases hwrapped with h | h | h <;> rw [h] <;> decide
    · rw [List.map_map]
      exact hwrapped
  case turned =>
    intro i j hij
    unfold origins at hij
    split at hij <;> split at hij <;> cases hij
    simp only [View.laidAt, PixelBox.ofSize, PixelBox.shift, PixelBox.mk.injEq]
    omega
  case inside =>
    intro i hi hunwrapped
    obtain ⟨o, ho, rfl⟩ := List.mem_map.1 hi
    rcases mem_origins.1 ho with ⟨-, rfl⟩ | ⟨-, rfl⟩
    · cases hunwrapped
    · rw [View.box_laidAt hsize]
      exact inside_of_targetBox htarget hbox

/-- One more source: it is left out with a warning, or its warped pixels are laid down, on any
canvas alike. -/
theorem addSource_cases
    (h : addSource engine settings output resolution columns channel colorBands c placed.1 placed.2
      log = .ok c' log') :
    (overlaps engine output resolution columns placed = false ∧
      c' = { c with warnings := c.warnings ++ [noOverlap placed.1.path] }) ∨
    overlaps engine output resolution columns placed = true ∧ ∃ box wrap pixels,
      targetBox engine output columns resolution placed.1 placed.2 = .ok box ∧
      box.isEmpty = false ∧
      warped engine settings output channel colorBands placed.1 placed.2 box wrap = .ok pixels ∧
      ∀ c log, addSource engine settings output resolution columns channel colorBands c placed.1
        placed.2 log = Logging.ofExcept (lay pixels box.minY placed.1.label
          (origins box columns resolution.total) c) log := by
  obtain ⟨wrap, hglobal, h⟩ := Logging.exists_of_ofExcept_bind h
  obtain ⟨box, htarget, h⟩ := Logging.exists_of_ofExcept_bind h
  split at h
  case isTrue hempty =>
    obtain ⟨_, mid, -, h⟩ := Action.exists_of_bind_eq_ok h
    cases h
    exact .inl ⟨by rw [overlaps_eq htarget, hempty]; rfl, rfl⟩
  case isFalse hempty =>
    have hbox := Bool.eq_false_iff.2 hempty
    obtain ⟨pixels, hpixels, -⟩ := Logging.exists_of_ofExcept_bind h
    refine .inr ⟨by rw [overlaps_eq htarget, hbox]; rfl, box, wrap, pixels, htarget, hbox, hpixels,
      fun c log ↦ ?_⟩
    unfold addSource
    rw [hglobal, htarget]
    refine (Action.bind_of_eq_ok rfl).trans ((Action.bind_of_eq_ok rfl).trans ?_)
    rw [if_neg hempty, hpixels]
    exact Action.bind_of_eq_ok rfl

/-- One more source is entered in the accounts. -/
theorem adds_of_addSource (hengine : engine.SizesBoxes)
    (h : addSource engine settings output resolution columns channel colorBands c placed.1 placed.2
      log = .ok c' log') :
    ∃ p, Contribution.IsOf engine output resolution columns placed p ∧ c.Adds p c' := by
  rcases addSource_cases h with ⟨hskips, rfl⟩ | ⟨-, box, wrap, pixels, htarget, hbox, hpixels, hall⟩
  · refine ⟨{ warnings := [noOverlap placed.1.path] },
      ⟨rfl, by simp, fun _ ↦ ⟨rfl, rfl⟩, ?_, by simp, by simp⟩,
      (List.append_nil _).symm, (List.append_nil _).symm, rfl⟩
    exact fun hlaid ↦ absurd (hskips.symm.trans hlaid) (by decide)
  · rw [hall] at h
    exact ⟨_, isOf_origins htarget hbox (isSized_of_warped hengine hpixels hbox),
      adds_of_lay (Logging.eq_ok_of_ofExcept h).1⟩

/-! ## All sources -/

variable {sources : List (RasterSource α × Georeference α)}

/-- What is entered for each source is entered for all of them, one after the other. -/
theorem parts_of_foldlM {P : RasterSource α × Georeference α → Contribution α → Prop}
    (hstep : ∀ placed c c' log log', addSource engine settings output resolution columns channel
      colorBands c placed.1 placed.2 log = .ok c' log' → ∃ p, P placed p ∧ c.Adds p c')
    (h : sources.foldlM (m := Logging) (fun c (source, georeference) ↦ addSource engine settings
      output resolution columns channel colorBands c source georeference) c log = .ok c' log') :
    ∃ parts, List.Forall₂ P sources parts ∧ c.Adds (.all parts) c' := by
  induction sources generalizing c log with
  | nil =>
    cases h
    exact ⟨[], .nil, .refl _⟩
  | cons placed sources ih =>
    obtain ⟨next, mid, hadd, h⟩ := Action.exists_of_bind_eq_ok h
    obtain ⟨p, hp, hadds⟩ := hstep placed c next log mid hadd
    obtain ⟨parts, hparts, hall⟩ := ih h
    exact ⟨p :: parts, .cons hp hparts, hadds.cons hall⟩

theorem adds_of_foldlM (hengine : engine.SizesBoxes)
    (h : sources.foldlM (m := Logging) (fun c (source, georeference) ↦ addSource engine settings
      output resolution columns channel colorBands c source georeference) c log = .ok c' log') :
    ∃ parts, List.Forall₂ (Contribution.IsOf engine output resolution columns) sources parts ∧
      c.Adds (.all parts) c' :=
  parts_of_foldlM (fun _ _ _ _ _ ↦ adds_of_addSource hengine) h

/-- Without the sources that are left out, the others are laid down as before. -/
theorem foldlM_filter_overlaps
    (h : sources.foldlM (m := Logging) (fun c (source, georeference) ↦ addSource engine settings
      output resolution columns channel colorBands c source georeference) c log = .ok c' log')
    (warnings : List String) (log₁ : List LogRecord) :
    (sources.filter (overlaps engine output resolution columns)).foldlM (m := Logging)
      (fun c (source, georeference) ↦ addSource engine settings output resolution columns channel
        colorBands c source georeference) { c with warnings } log₁ =
      .ok { c' with warnings } log₁ := by
  induction sources generalizing c log with
  | nil =>
    cases h
    rfl
  | cons placed sources ih =>
    obtain ⟨next, mid, hadd, h⟩ := Action.exists_of_bind_eq_ok h
    have hrest := ih h
    rcases addSource_cases hadd with
      ⟨hskips, rfl⟩ | ⟨hlaid, box, wrap, pixels, -, -, -, hall⟩
    · rw [List.filter_cons_of_neg (by rw [hskips]; decide)]
      exact hrest
    · have hlay : lay pixels box.minY placed.1.label (origins box columns resolution.total) c =
          .ok next := (Logging.eq_ok_of_ofExcept ((hall c log).symm.trans hadd)).1
      have hagain : addSource engine settings output resolution columns channel colorBands
          { c with warnings } placed.1 placed.2 log₁ = .ok { next with warnings } log₁ := by
        rw [hall, lay_with_warnings warnings hlay]
        rfl
      rw [List.filter_cons_of_pos hlaid, List.foldlM_cons]
      exact (Action.bind_of_eq_ok hagain).trans hrest

/-- The warning that a composition begins with, if there is one. -/
def openingWarnings (settings : ComposeSettings α) : List String :=
  if settings.pixels.normalize && settings.pixels.rescales then [rescaleIgnored] else []

/-- A composition once its canvas is known. -/
theorem compose_eq (hrange : (settings.pixels.normalize && settings.range.isNone) = false)
    (hchannel : channelOf settings (sources.map (·.1)) = .ok channel)
    (hbands : colorBandsOf settings (sources.map (·.1)) = .ok colorBands)
    (hcolumns : resolution.columns = .ok columns) (log : List LogRecord) :
    compose engine settings output resolution sources log =
      sources.foldlM (m := Logging) (fun c (source, georeference) ↦ addSource engine settings
        output resolution columns channel colorBands c source georeference)
        { canvas := Canvas.new (colorBands + 1) channel, warnings := openingWarnings settings }
        ((openingWarnings settings).map (LogRecord.warning logger) ++ log) := by
  unfold compose openingWarnings
  rw [hrange, if_neg (by decide), hchannel, hbands, hcolumns]
  cases settings.pixels.normalize && settings.pixels.rescales with
  | true => rfl
  | false => rfl

theorem exists_of_compose {composition : Composition α}
    (h : compose engine settings output resolution sources log = .ok composition log') :
    (settings.pixels.normalize && settings.range.isNone) = false ∧
      ∃ channel colorBands columns, channelOf settings (sources.map (·.1)) = .ok channel ∧
        colorBandsOf settings (sources.map (·.1)) = .ok colorBands ∧
        resolution.columns = .ok columns := by
  unfold compose at h
  split at h
  case isTrue => cases h
  case isFalse hrange =>
    dsimp only at h
    split at h
    case' isTrue => obtain ⟨_, mid, -, h⟩ := Action.exists_of_bind_eq_ok h
    -- with or without the warning, the canvas is settled next
    all_goals
      obtain ⟨channel, hchannel, h⟩ := Logging.exists_of_ofExcept_bind h
      obtain ⟨colorBands, hbands, h⟩ := Logging.exists_of_ofExcept_bind h
      obtain ⟨columns, hcolumns, -⟩ := Logging.exists_of_ofExcept_bind h
      exact ⟨Bool.eq_false_iff.2 hrange, channel, colorBands, columns, hchannel, hbands, hcolumns⟩

/-- The accounts of a composition are those of its sources in their order, after the warning about a
rescale.  So the insertions are those of the views, one for each; and where the canvas does not
depend on the sources, those that are left out make no difference to it. -/
theorem compose_keeps_books {engine : Engine α} (hengine : engine.SizesBoxes)
    (settings : ComposeSettings α) (output : Georeference α) (resolution : Resolution)
    (sources : List (RasterSource α × Georeference α)) {log log' : List LogRecord}
    {composition : Composition α}
    (h : compose engine settings output resolution sources log = .ok composition log') :
    composition.insertions.map (fun i ↦ (i.label, i.box)) =
        composition.canvas.views.map (fun v ↦ (v.label, v.box)) ∧
      ∃ columns parts, resolution.columns = .ok columns ∧
        List.Forall₂ (Contribution.IsOf engine output resolution columns) sources parts ∧
        composition.canvas.views = parts.flatMap (·.views) ∧
        composition.insertions = parts.flatMap (·.insertions) ∧
        composition.warnings = openingWarnings settings ++ parts.flatMap (·.warnings) ∧
        (settings.channel.isSome = true → settings.colorBands.isSome = true → ∀ log₁, ∃ log₁',
          compose engine settings output resolution
            (sources.filter (overlaps engine output resolution columns)) log₁ =
              .ok { composition with warnings := openingWarnings settings } log₁') := by
  obtain ⟨hrange, channel, colorBands, columns, hchannel, hbands, hcolumns⟩ := exists_of_compose h
  rw [compose_eq hrange hchannel hbands hcolumns] at h
  obtain ⟨parts, hparts, hadds⟩ := adds_of_foldlM hengine h
  have hviews : composition.canvas.views = parts.flatMap (·.views) := hadds.views
  have hinsertions : composition.insertions = parts.flatMap (·.insertions) := hadds.insertions
  refine ⟨?same, columns, parts, hcolumns, hparts, hviews, hinsertions, hadds.warnings, ?filtered⟩
  case same =>
    rw [hinsertions, hviews, List.map_flatMap, List.map_flatMap]
    clear hadds hviews hinsertions h hchannel hbands
    induction hparts with
    | nil => rfl
    | cons hp _ ih => rw [List.flatMap_cons, List.flatMap_cons, hp.insertions, ih]
  case filtered =>
    intro hsome hsome' log₁
    obtain ⟨channel', hchannel'⟩ := Option.isSome_iff_exists.1 hsome
    obtain ⟨bands', hbands'⟩ := Option.isSome_iff_exists.1 hsome'
    -- a canvas that the settings name is the same for any sources
    have hgiven (l : List (RasterSource α)) : channelOf settings l = .ok channel' := by
      unfold channelOf
      rw [hchannel']
    have hgiven' (l : List (RasterSource α)) : colorBandsOf settings l = .ok bands' := by
      unfold colorBandsOf
      rw [hbands']
    cases (hgiven _).symm.trans hchannel
    cases (hgiven' _).symm.trans hbands
    refine ⟨(openingWarnings settings).map (LogRecord.warning logger) ++ log₁, ?_⟩
    rw [compose_eq hrange (hgiven _) (hgiven' _) hcolumns]
    exact foldlM_filter_overlaps h _ _

/-- An engine over the rationals that fills every box with zeros. -/
def zeroEngine : Engine Rat where
  openSource _ := none
  readSource s := some (.zeros 1 s.rows s.cols)
  project _ _ := some id
  warp pixels _ _ box _ := .zeros pixels.bands box.height.toNat box.width.toNat

/-- An image of one row of pixels. -/
def strip (name : String) (cols : Nat) : RasterSource Rat :=
  ⟨⟨"", [name]⟩, .ofBandCount 1, .uint8, cols, 1, 1, none, none, Affine.identity⟩

/-- The pixels of a pyramid, as they are. -/
def pixelGrid : Georeference Rat := ⟨⟨"", [], Datum.wgs84, false⟩, Affine.identity⟩

/-- An image of one pixel that is laid down, and one without pixels that is left out. -/
def stripAndGap : List (RasterSource Rat × Georeference Rat) :=
  [(strip "a.tif" 1, pixelGrid), (strip "b.tif" 0, pixelGrid)]

set_option maxRecDepth 2000 in
/-- One image is laid down and one is left out with a warning, without which the first one alone
would give the same canvas. -/
theorem compose_keeps_books_of_strip_and_gap :
    ∃ composition log log',
      compose zeroEngine ⟨PixelOptions.unchanged, none, some .uint8, some 1⟩ pixelGrid ⟨4, 1⟩
        stripAndGap [] = .ok composition log ∧
      composition.insertions.map (fun i ↦ (i.label, i.wrapped)) = [("a.tif", false)] ∧
      composition.insertions.map (fun i ↦ (i.label, i.box)) =
        composition.canvas.views.map (fun v ↦ (v.label, v.box)) ∧
      compose zeroEngine ⟨PixelOptions.unchanged, none, some .uint8, some 1⟩ pixelGrid ⟨4, 1⟩
        (stripAndGap.filter (overlaps zeroEngine pixelGrid ⟨4, 1⟩ 4)) [] =
          .ok { composition with warnings := [] } log' := by
  have hinsertions : (match compose zeroEngine ⟨PixelOptions.unchanged, none, some .uint8, some 1⟩
      pixelGrid ⟨4, 1⟩ stripAndGap [] with
      | .ok composition _ => composition.insertions.map fun i ↦ (i.label, i.wrapped)
      | .error _ _ => []) = [("a.tif", false)] := by
    decide +kernel
  cases h : compose zeroEngine ⟨PixelOptions.unchanged, none, some .uint8, some 1⟩ pixelGrid
      ⟨4, 1⟩ stripAndGap [] with
  | error e log =>
    rw [h] at hinsertions
    cases hinsertions
  | ok composition log =>
    rw [h] at hinsertions
    obtain ⟨hsame, columns, parts, hcolumns, -, -, -, -, hfiltered⟩ :=
      compose_keeps_books ⟨fun _ _ _ _ _ ↦ rfl, fun _ _ _ _ _ ↦ rfl⟩ _ _ _ _ h
    cases hcolumns
    obtain ⟨log', hfiltered⟩ := hfiltered rfl rfl []
    exact ⟨composition, log, log', rfl, hinsertions, hsame, hfiltered⟩

end Composition

end QuadMosaic
