import Mathlib
import QuadMosaic.Georeference.Resolve
import QuadMosaic.Proofs.Faults

/-!
# Overrides of georeferences

A georeference is a reference system and an affine map, and each override replaces one of the two: a
datum and a projection rebuild the system, bounds typed by hand and a nudge move the pixels.  What
the overrides make of one part is told without a look at the other (`systemOf`, `placing`), nor at
any other source.  So no override shows in the part that is not its own.  Which reference systems
there are, and what can be built of parameters, is left open; only of longitudes and latitudes it is
asked that they can be built.

What is shared is the start: a source without a georeference needs bounds, and then has longitudes
and latitudes.  An affine map that does nothing counts for none at all, be there a reference system
beside it or not.
-/

namespace QuadMosaic

variable {α C : Type} [Scalar α]

/-! ## The georeference that an image carries -/

namespace RasterSource

variable {s : RasterSource α C} {g : Georeference α C}

theorem georeference?_eq_none_iff :
    s.georeference? = none ↔ s.crs = none ∨ s.transform.same Affine.identity = true := by
  unfold georeference?
  cases s.crs <;> simp

theorem georeference?_eq_some_iff : s.georeference? = some g ↔
    s.crs = some g.crs ∧ s.transform.same Affine.identity = false ∧ s.transform = g.transform := by
  unfold georeference?
  obtain ⟨crs, transform⟩ := g
  cases s.crs <;> simp
  tauto

end RasterSource

/-- Longitudes and latitudes on the datum of the satellites are at hand, and known for what they
are. -/
def ReferenceSystem.HasLongLat (C : Type) [ReferenceSystem C] : Prop :=
  ∃ crs : C, build [("proj", .str "longlat")] Datum.wgs84 = .ok crs ∧ isGeographic crs = true

namespace GeoreferenceOptions

/-! ## What the overrides make of each part -/

/-- The affine map that spreads a source between bounds typed by hand, if it has pixels to spread;
its own without bounds. -/
def spread (bounds : Option (ManualBounds α)) (source : RasterSource α C) :
    Except Fault (Affine α) :=
  match bounds with
  | none => .ok source.transform
  | some edges =>
    if source.cols = 0 ∨ source.rows = 0 then .error (.value .divisionByZero)
    else .ok {
      a := (edges.east - edges.west) / Scalar.ofInt source.cols
      b := Scalar.zero
      c := edges.west
      d := Scalar.zero
      e := (edges.south - edges.north) / Scalar.ofInt source.rows
      f := edges.north }

theorem spread_some (edges : ManualBounds α) (source : RasterSource α C) :
    spread (some edges) source = edges.transform source.cols source.rows := by
  unfold spread ManualBounds.transform
  simp only [Int.natCast_eq_zero]

/-- The affine map of a source with a nudge added, unless the nudge is zero. -/
def placing (bounds : Option (ManualBounds α)) (dx dy : α) (source : RasterSource α C) :
    Except Fault (Affine α) := do
  let own ← spread bounds source
  pure (if Scalar.eq dx Scalar.zero && Scalar.eq dy Scalar.zero then own else own.nudge dx dy)

/-- A nudge is added to the two terms that translate, also when it is zero, in numbers that zero
leaves as they are. -/
theorem placing_eq (hzero : ∀ x n : α, Scalar.eq n Scalar.zero = true → x + n = x)
    (bounds : Option (ManualBounds α)) (dx dy : α) (source : RasterSource α C) :
    placing bounds dx dy source = (spread bounds source).map fun own ↦
      { own with c := own.c + dx, f := own.f + dy } := by
  unfold placing
  cases spread bounds source with
  | error e => rfl
  | ok own =>
    refine congrArg Except.ok ?_
    split
    case isTrue h =>
      obtain ⟨hx, hy⟩ := Bool.and_eq_true_iff.1 h
      simp only [hzero own.c dx hx, hzero own.f dy hy]
    case isFalse => rfl

variable [ReferenceSystem C]

/-- A reference system on the datum that replaces its own, if one does. -/
def onDatum (datum : Option Datum) (crs : C) : Except Fault C :=
  match datum with
  | none => .ok crs
  | some d => ReferenceSystem.replaceDatum crs d

/-- A reference system in the projection that replaces its own, if one does. -/
def inProjection (projection : Option ProjectionSpec) (crs : C) : Except Fault C :=
  match projection with
  | none => .ok crs
  | some spec => ReferenceSystem.replaceProjection crs spec

/-- The reference system that a source starts from: that of its georeference, or longitudes and
latitudes when it has none. -/
def ownSystem (source : RasterSource α C) : Except Fault C :=
  match source.georeference? with
  | some g => .ok g.crs
  | none => ReferenceSystem.build [("proj", .str "longlat")] Datum.wgs84

/-- The reference system of a source with datum and projection replaced. -/
def systemOf (datum : Option Datum) (projection : Option ProjectionSpec)
    (source : RasterSource α C) : Except Fault C := do
  let crs ← ownSystem source
  let crs ← onDatum datum crs
  inProjection projection crs

/-! ## Each step of one source -/

section

variable {options : GeoreferenceOptions α} {datum : Option Datum} {source : RasterSource α C}
  {g g' : Georeference α C}

omit [ReferenceSystem C]

omit [Scalar α] in
/-- What replaces the reference system leaves the affine map. -/
theorem replace_crs_eq_ok_iff {crs : Except Fault C} :
    (crs >>= fun crs ↦ pure { g with crs }) = .ok g' ↔
      crs = .ok g'.crs ∧ g.transform = g'.transform := by
  obtain ⟨_, _⟩ := g'
  cases crs <;> simp [bind, Except.bind, pure, Except.pure]

omit [Scalar α] in
/-- What replaces the affine map leaves the reference system. -/
theorem replace_transform_eq_ok_iff {transform : Except Fault (Affine α)} :
    (transform >>= fun transform ↦ pure { g with transform }) = .ok g' ↔
      transform = .ok g'.transform ∧ g.crs = g'.crs := by
  obtain ⟨_, _⟩ := g'
  cases transform <;> simp [bind, Except.bind, pure, Except.pure, and_comm]

theorem applyBounds_eq_ok_iff (h : options.manualBounds = none → g.transform = source.transform) :
    options.applyBounds source g = .ok g' ↔
      spread options.manualBounds source = .ok g'.transform ∧ g.crs = g'.crs := by
  rw [← replace_transform_eq_ok_iff]
  unfold applyBounds
  cases hbounds : options.manualBounds with
  | none =>
    obtain ⟨_, _⟩ := g
    cases h hbounds
    rfl
  | some b =>
    rw [spread_some]
    rfl

theorem applyNudge_mk (crs : C) (own : Affine α) : options.applyNudge ⟨crs, own⟩ =
    ⟨crs, if Scalar.eq options.nudgeX Scalar.zero && Scalar.eq options.nudgeY Scalar.zero then own
      else own.nudge options.nudgeX options.nudgeY⟩ := by
  unfold applyNudge
  split <;> rfl

end

section

variable {options : GeoreferenceOptions α} {datum : Option Datum} {source : RasterSource α C}
  {g g' : Georeference α C}

omit [Scalar α] in
theorem applyDatum_eq_ok_iff : applyDatum datum g = .ok g' ↔
    onDatum datum g.crs = .ok g'.crs ∧ g.transform = g'.transform := by
  rw [← replace_crs_eq_ok_iff]
  cases datum <;> rfl

omit [Scalar α] in
theorem applyProjection_eq_ok_iff : options.applyProjection g = .ok g' ↔
    inProjection options.projection g.crs = .ok g'.crs ∧ g.transform = g'.transform := by
  rw [← replace_crs_eq_ok_iff]
  unfold applyProjection
  cases options.projection <;> rfl

/-- Where a source without bounds typed by hand starts, its own affine map is. -/
theorem start_eq_ok (h : options.start source = .ok g) :
    (source.georeference? = none → options.manualBounds.isSome = true) ∧
      ownSystem source = .ok g.crs ∧
      (options.manualBounds = none → g.transform = source.transform) := by
  unfold start at h
  unfold ownSystem
  cases hown : source.georeference? with
  | some own =>
    rw [hown] at h
    cases h
    obtain ⟨-, -, htransform⟩ := RasterSource.georeference?_eq_some_iff.1 hown
    exact ⟨nofun, rfl, fun _ ↦ htransform.symm⟩
  | none =>
    rw [hown] at h
    cases hbounds : options.manualBounds with
    | none =>
      rw [hbounds] at h
      cases h
    | some b =>
      rw [hbounds] at h
      obtain ⟨crs, hcrs, h⟩ := exists_of_bind_eq_ok h
      cases h
      exact ⟨fun _ ↦ rfl, hcrs, nofun⟩

theorem exists_start {crs : C}
    (hbounds : source.georeference? = none → options.manualBounds.isSome = true)
    (hcrs : ownSystem source = .ok crs) :
    ∃ transform, options.start source = .ok ⟨crs, transform⟩ := by
  unfold ownSystem at hcrs
  unfold start
  cases hown : source.georeference? with
  | some own =>
    rw [hown] at hcrs
    cases hcrs
    exact ⟨_, rfl⟩
  | none =>
    rw [hown] at hcrs
    obtain ⟨b, hb⟩ := Option.isSome_iff_exists.1 (hbounds hown)
    rw [hb]
    exact ⟨_, bind_of_eq_ok hcrs⟩

/-- A source gets a georeference when it has one or bounds are typed by hand, and both parts can be
made; each part is made on its own. -/
theorem resolveOne_eq_ok_iff : options.resolveOne datum source = .ok g ↔
    (source.georeference? = none → options.manualBounds.isSome = true) ∧
      systemOf datum options.projection source = .ok g.crs ∧
      placing options.manualBounds options.nudgeX options.nudgeY source = .ok g.transform := by
  constructor
  · intro h
    obtain ⟨g₀, hstart, h⟩ := exists_of_bind_eq_ok h
    obtain ⟨g₁, hdatum, h⟩ := exists_of_bind_eq_ok h
    obtain ⟨g₂, hbounds, h⟩ := exists_of_bind_eq_ok h
    obtain ⟨⟨crs, own⟩, hprojection, h⟩ := exists_of_bind_eq_ok h
    cases h
    obtain ⟨hsome, hcrs, htransform⟩ := start_eq_ok hstart
    obtain ⟨hdatum, h₁⟩ := applyDatum_eq_ok_iff.1 hdatum
    rw [h₁] at htransform
    obtain ⟨hown, h₂⟩ := (applyBounds_eq_ok_iff htransform).1 hbounds
    obtain ⟨hprojection, h₃⟩ := applyProjection_eq_ok_iff.1 hprojection
    rw [applyNudge_mk]
    refine ⟨hsome, ?_, ?_⟩
    · unfold systemOf
      rw [bind_of_eq_ok hcrs, bind_of_eq_ok hdatum, h₂, hprojection]
    · unfold placing
      rw [bind_of_eq_ok hown, h₃]
      rfl
  · rintro ⟨hsome, hsystem, hplacing⟩
    obtain ⟨crs₀, hcrs, hsystem⟩ := exists_of_bind_eq_ok hsystem
    obtain ⟨crs₁, hdatum, hprojection⟩ := exists_of_bind_eq_ok hsystem
    obtain ⟨own, hown, hplacing⟩ := exists_of_bind_eq_ok hplacing
    obtain ⟨transform, hstart⟩ := exists_start hsome hcrs
    have hdatum : applyDatum datum ⟨crs₀, transform⟩ = .ok ⟨crs₁, transform⟩ :=
      applyDatum_eq_ok_iff.2 ⟨hdatum, rfl⟩
    obtain ⟨-, -, htransform⟩ := start_eq_ok hstart
    have hbounds : options.applyBounds source ⟨crs₁, transform⟩ = .ok ⟨crs₁, own⟩ :=
      (applyBounds_eq_ok_iff (g := ⟨crs₁, transform⟩) htransform).2 ⟨hown, rfl⟩
    have hprojection : options.applyProjection ⟨crs₁, own⟩ = .ok ⟨g.crs, own⟩ :=
      applyProjection_eq_ok_iff.2 ⟨hprojection, rfl⟩
    unfold resolveOne
    rw [bind_of_eq_ok hstart, bind_of_eq_ok hdatum, bind_of_eq_ok hbounds,
      bind_of_eq_ok hprojection, applyNudge_mk]
    obtain ⟨_, _⟩ := g
    cases hplacing
    rfl

/-- Why a source gets no georeference. -/
inductive Obstacle (options : GeoreferenceOptions α) (source : RasterSource α C) : Fault → Prop
  | absent : options.manualBounds = none → source.georeference? = none →
      Obstacle options source (.georeference (.absent source.path.toString))
  | projection (cause : ProjectionFault) : Obstacle options source (.projection cause)
  | value (cause : ValueFault) : Obstacle options source (.value cause)

theorem failsOnly_resolveOne (options : GeoreferenceOptions α) (datum : Option Datum)
    (source : RasterSource α C) :
    FailsOnly (options.Obstacle source) (options.resolveOne datum source) := by
  have hbuild (projection : Fields) (datum : Datum) : FailsOnly (options.Obstacle source)
      (ReferenceSystem.build projection datum : Except Fault C) :=
    (FailsOnly.build projection datum).mono fun _ ⟨_, he⟩ ↦ he ▸ .projection _
  unfold resolveOne
  refine .bind ?start fun g _ ↦ .bind ?datum fun g _ ↦ .bind ?bounds fun g _ ↦
    .bind ?projection fun _ _ ↦ .ok _
  case start =>
    unfold start
    split
    case h_1 => exact .ok _
    case h_2 hown hbounds => exact .error (.absent hbounds hown)
    case h_3 => exact .bind (hbuild _ _) fun _ _ ↦ .ok _
  case datum =>
    unfold applyDatum
    split
    · exact .ok _
    · exact .bind (hbuild _ _) fun _ _ ↦ .ok _
  case bounds =>
    unfold applyBounds
    split
    · exact .ok _
    · exact .bind (.ite (.error (.value _)) (.ok _)) fun _ _ ↦ .ok _
  case projection =>
    unfold applyProjection
    split
    · exact .ok _
    · exact .bind (.bind (.params .projection .value _) fun _ _ ↦ hbuild _ _) fun _ _ ↦ .ok _

end

/-! ## All sources -/

section

variable {options : GeoreferenceOptions α} {sources : List (RasterSource α C)}

theorem forall₂_of_resolve {r : ResolvedGeoreferences α C} (h : options.resolve sources = .ok r) :
    ∃ datum, options.datum.datum options.sphereRadius = .ok datum ∧
      List.Forall₂ (fun source g ↦ options.resolveOne datum source = .ok g) sources
        r.georeferences := by
  unfold resolve at h
  split at h
  · cases h
  split at h
  · cases h
  obtain ⟨datum, hdatum, h⟩ := exists_of_bind_eq_ok h
  obtain ⟨found, hfound, h⟩ := exists_of_bind_eq_ok h
  refine ⟨datum, hdatum, ?_⟩
  split at h
  · cases h
  · cases h
    exact forall₂_of_mapM hfound

/-- Only a source without a georeference is called misplaced, and only where bounds are not
typed by hand. -/
theorem failsOnly_resolve (options : GeoreferenceOptions α) (sources : List (RasterSource α C)) :
    FailsOnly (fun e ↦ ∀ cause, e = .georeference cause → options.manualBounds = none ∧
      ∃ source ∈ sources, source.georeference? = none) (options.resolve sources) := by
  refine .ite (.error nofun) (.ite (.error nofun) (.bind ?datum fun datum _ ↦
    .bind (.mapM fun source hsource ↦ ?source) fun _ _ ↦ ?_))
  case datum =>
    unfold DatumOverride.datum
    cases options.datum with
    | none | wgs84 | lunar | mars => exact .ok _
    | sphere =>
      cases options.sphereRadius with
      | none => exact .error nofun
      | some r =>
        refine .ite (.error nofun) (.bind ((FailsOnly.toDouble r).mono ?_) fun _ _ ↦ .ok _)
        rintro _ rfl
        exact nofun
  case source =>
    refine (failsOnly_resolveOne options datum source).mono fun e he cause hcause ↦ ?_
    cases he with
    | absent hbounds hown => exact ⟨hbounds, source, hsource, hown⟩
    | projection | value => cases hcause
  split
  · exact .error nofun
  · exact .ok _

/-- The overrides of datum and projection fit the sources that have a georeference. -/
def Fits (options : GeoreferenceOptions α) (sources : List (RasterSource α C)) : Prop :=
  ∃ datum, options.datum.datum options.sphereRadius = .ok datum ∧ ∀ source ∈ sources,
    source.georeference?.isSome = true → ∃ crs, systemOf datum options.projection source = .ok crs

/-- Without bounds typed by hand, a source whose system can be made fails for want of a georeference
only. -/
theorem failsOnly_resolveOne_of_fits {datum : Option Datum} {source : RasterSource α C}
    (hbounds : options.manualBounds = none)
    (hsystem : source.georeference?.isSome = true →
      ∃ crs, systemOf datum options.projection source = .ok crs) :
    FailsOnly (∃ cause, · = .georeference cause) (options.resolveOne datum source) := by
  cases hown : source.georeference? with
  | some own =>
    have hsome : source.georeference?.isSome = true := by rw [hown, Option.isSome_some]
    obtain ⟨crs, hcrs⟩ := hsystem hsome
    have hok : options.resolveOne datum source = .ok ⟨crs, _⟩ :=
      resolveOne_eq_ok_iff.2 ⟨by rw [hown]; exact nofun, hcrs, by rw [hbounds]; rfl⟩
    rw [hok]
    exact .ok _
  | none =>
    have hstart : options.start source = .error (.georeference (.absent source.path.toString)) := by
      unfold start
      rw [hown, hbounds]
    unfold resolveOne
    rw [hstart]
    exact .error ⟨_, rfl⟩

/-- Where nothing else is amiss, a source without a georeference is found out. -/
theorem exists_resolve_eq_error (hfits : options.Fits sources)
    (hbounds : options.manualBounds = none) {lacking : RasterSource α C} (hmem : lacking ∈ sources)
    (hown : lacking.georeference? = none) :
    ∃ cause, options.resolve sources = .error (.georeference cause) := by
  obtain ⟨datum, hdatum, hsystems⟩ := hfits
  have hfails : FailsOnly (∃ cause, · = .georeference cause)
      (sources.mapM (options.resolveOne datum)) :=
    .mapM fun source hsource ↦ failsOnly_resolveOne_of_fits hbounds (hsystems source hsource)
  cases hfound : sources.mapM (options.resolveOne datum) with
  | error e =>
    obtain ⟨cause, rfl⟩ := hfails e hfound
    refine ⟨cause, ?_⟩
    unfold resolve
    rw [if_neg (List.ne_nil_of_mem hmem), if_neg (by simp [hbounds]), bind_of_eq_ok hdatum, hfound]
    rfl
  | ok found =>
    -- the source that lacks a georeference would have got one
    obtain ⟨g, -, hg⟩ := exists_of_mapM_of_mem hfound hmem
    obtain ⟨hsome, -⟩ := resolveOne_eq_ok_iff.1 hg
    have hcontra := hsome hown
    rw [hbounds] at hcontra
    cases hcontra

/-- A georeference is made of a source by the overrides, each part by its own.  A nudge is added to
the two terms of the affine map that translate, in numbers that zero leaves as they are. -/
structure Makes (options : GeoreferenceOptions α) (datum : Option Datum) (source : RasterSource α C)
    (g : Georeference α C) : Prop where
  crs : systemOf datum options.projection source = .ok g.crs
  transform :
    placing options.manualBounds options.nudgeX options.nudgeY source = .ok g.transform
  nudged : (∀ x n : α, Scalar.eq n Scalar.zero = true → x + n = x) →
    ∃ own, spread options.manualBounds source = .ok own ∧
      g.transform = { own with c := own.c + options.nudgeX, f := own.f + options.nudgeY }

theorem makes_of_resolveOne {datum : Option Datum} {source : RasterSource α C}
    {g : Georeference α C} (h : options.resolveOne datum source = .ok g) :
    options.Makes datum source g := by
  obtain ⟨-, hcrs, htransform⟩ := resolveOne_eq_ok_iff.1 h
  refine ⟨hcrs, htransform, fun hzero ↦ ?_⟩
  rw [placing_eq hzero] at htransform
  cases hown : spread options.manualBounds source with
  | error e =>
    rw [hown] at htransform
    cases htransform
  | ok own =>
    rw [hown] at htransform
    exact ⟨own, rfl, (Except.ok.inj htransform).symm⟩

/-- Overrides do not interfere.

A run gives one georeference for each source, in order, and each part of it is made by its own
overrides.  So runs that agree on bounds and nudge give a source the same affine map, and runs that
agree on datum and projection the same reference system, whatever else they are told and whatever
the other sources are.

A run fails for want of a georeference only where no bounds are typed by hand and some source has no
reference system or an affine map that does nothing; and there it does, if the overrides fit the
other sources. -/
theorem overrides_do_not_interfere (options : GeoreferenceOptions α)
    (sources : List (RasterSource α C)) :
    (∀ r, options.resolve sources = .ok r →
      ∃ datum, options.datum.datum options.sphereRadius = .ok datum ∧
        List.Forall₂ (options.Makes datum) sources r.georeferences) ∧
    (∀ (options' : GeoreferenceOptions α) (sources' : List (RasterSource α C)) r r',
      options.resolve sources = .ok r → options'.resolve sources' = .ok r' → ∀ source g g',
      (source, g) ∈ sources.zip r.georeferences → (source, g') ∈ sources'.zip r'.georeferences →
        (options.manualBounds = options'.manualBounds → options.nudgeX = options'.nudgeX →
          options.nudgeY = options'.nudgeY → g.transform = g'.transform) ∧
        (options.datum = options'.datum → options.sphereRadius = options'.sphereRadius →
          options.projection = options'.projection → g.crs = g'.crs)) ∧
    ((∃ cause, options.resolve sources = .error (.georeference cause)) →
      options.manualBounds = none ∧
        ∃ source ∈ sources, source.crs = none ∨ source.transform.same Affine.identity = true) ∧
    (options.Fits sources → options.manualBounds = none →
      (∃ source ∈ sources, source.crs = none ∨ source.transform.same Affine.identity = true) →
        ∃ cause, options.resolve sources = .error (.georeference cause)) := by
  have hmakes {options : GeoreferenceOptions α} {sources : List (RasterSource α C)}
      {r : ResolvedGeoreferences α C} (h : options.resolve sources = .ok r) :
      ∃ datum, options.datum.datum options.sphereRadius = .ok datum ∧
        List.Forall₂ (options.Makes datum) sources r.georeferences := by
    obtain ⟨datum, hdatum, hall⟩ := forall₂_of_resolve h
    exact ⟨datum, hdatum, hall.imp fun _ _ ↦ makes_of_resolveOne⟩
  simp only [← RasterSource.georeference?_eq_none_iff]
  refine ⟨fun r ↦ hmakes, ?runs, ?fails, ?found⟩
  case runs =>
    intro options' sources' r r' h h' source g g' hg hg'
    obtain ⟨datum, hdatum, hall⟩ := hmakes h
    obtain ⟨datum', hdatum', hall'⟩ := hmakes h'
    have hmade := (List.forall₂_iff_zip.1 hall).2 hg
    have hmade' := (List.forall₂_iff_zip.1 hall').2 hg'
    constructor
    · intro hbounds hx hy
      have htransform := hmade.transform
      rw [hbounds, hx, hy, hmade'.transform] at htransform
      exact (Except.ok.inj htransform).symm
    · intro hkind hradius hprojection
      rw [hkind, hradius, hdatum'] at hdatum
      cases hdatum
      have hcrs := hmade.crs
      rw [hprojection, hmade'.crs] at hcrs
      exact (Except.ok.inj hcrs).symm
  case fails =>
    rintro ⟨cause, hcause⟩
    exact failsOnly_resolve options sources _ hcause cause rfl
  case found =>
    rintro hfits hbounds ⟨lacking, hmem, hown⟩
    exact exists_resolve_eq_error hfits hbounds hmem hown

end

/-- An image of sixteen pixels, in the system of a code if it has one. -/
def scan (code : Option Nat) (transform : Affine Rat := ⟨1, 0, 10, 0, -1, 20⟩) :
    RasterSource Rat where
  path := ⟨"", ["scan.tif"]⟩
  format := .gray
  channel := .uint8
  cols := 4
  rows := 4
  bandCount := 1
  nodata := none
  crs := code.bind Crs.ofCode?
  transform

/-- A nudge to the east by a quarter, and another projection. -/
def reprojected : GeoreferenceOptions Rat := { projection := some {}, nudgeX := 1 / 4, nudgeY := 0 }

/-- A nudge to the east by a quarter, and another datum. -/
def redated : GeoreferenceOptions Rat := { datum := .wgs84, nudgeX := 1 / 4, nudgeY := 0 }

/-- Two images are nudged while their projection is replaced; the first one stands in the same place
when it is alone and its datum is replaced.  Beside an image without a system it is not placed. -/
theorem overrides_do_not_interfere_two_scenes :
    (∃ r r' : ResolvedGeoreferences Rat, ∃ g₁ g₂ g',
      reprojected.resolve [scan (some 4326), scan (some 32633)] = .ok r ∧
      redated.resolve [scan (some 4326)] = .ok r' ∧
      r.georeferences = [g₁, g₂] ∧ r'.georeferences = [g'] ∧
      g₂.transform = ⟨1, 0, 41 / 4, 0, -1, 20⟩ ∧ g₁.transform = g'.transform) ∧
    ∃ cause, reprojected.resolve [scan (some 4326), scan none] = .error (.georeference cause) := by
  have hzero (x n : Rat) (h : Scalar.eq n Scalar.zero = true) : x + n = x := by
    have hn : n = 0 := of_decide_eq_true h
    rw [hn, add_zero]
  constructor
  case left =>
    obtain ⟨⟨found, datum⟩, hr⟩ :
        ∃ r, reprojected.resolve [scan (some 4326), scan (some 32633)] = .ok r := ⟨_, rfl⟩
    obtain ⟨⟨found', datum'⟩, hr'⟩ : ∃ r, redated.resolve [scan (some 4326)] = .ok r := ⟨_, rfl⟩
    obtain ⟨hmakes, hruns, -⟩ :=
      overrides_do_not_interfere reprojected [scan (some 4326), scan (some 32633)]
    obtain ⟨hmakes', -⟩ := overrides_do_not_interfere redated [scan (some 4326)]
    obtain ⟨_, -, hall⟩ := hmakes _ hr
    obtain ⟨_, -, hall'⟩ := hmakes' _ hr'
    cases hall with | @cons _ g₁ _ _ _ hrest =>
    cases hrest with | @cons _ g₂ _ _ h₂ hnil =>
    cases hnil
    cases hall' with | @cons _ g' _ _ _ hnil =>
    cases hnil
    obtain ⟨own, hown, hnudged⟩ := h₂.nudged hzero
    cases hown
    refine ⟨_, _, g₁, g₂, g', hr, hr', rfl, rfl, ?_, ?_⟩
    · rw [hnudged]
      decide +kernel
    · exact (hruns redated _ _ _ hr hr' (scan (some 4326)) g₁ g' (.head _) (.head _)).1 rfl rfl rfl
  case right =>
    obtain ⟨-, -, -, hfound⟩ :=
      overrides_do_not_interfere reprojected [scan (some 4326), scan none]
    have hgeographic : ∃ crs : Crs,
        systemOf none reprojected.projection (scan (some 4326)) = .ok crs := ⟨_, rfl⟩
    have hnone : (scan none).georeference? = none := rfl
    refine hfound ⟨none, rfl, ?_⟩ rfl ⟨scan none, .tail _ (.head _), .inl rfl⟩
    refine List.forall_mem_cons.2 ⟨fun _ ↦ hgeographic, List.forall_mem_singleton.2 fun h ↦ ?_⟩
    rw [hnone] at h
    cases h

/-! ## Bounds and the reference system -/

section

variable {options : GeoreferenceOptions α} {b : ManualBounds α} {source : RasterSource α C}

theorem resolve_singleton_eq_ok_iff {datum : Option Datum} {r : ResolvedGeoreferences α C}
    (hdatum : options.datum.datum options.sphereRadius = .ok datum) :
    options.resolve [source] = .ok r ↔
      ∃ g, options.resolveOne datum source = .ok g ∧ ⟨[g], ReferenceSystem.datum g.crs⟩ = r := by
  unfold resolve
  rw [if_neg (List.cons_ne_nil _ _), if_neg (by simp), bind_of_eq_ok hdatum, List.mapM_cons,
    List.mapM_nil]
  cases options.resolveOne datum source <;> simp [bind, Except.bind, pure, Except.pure]

theorem ownSystem_of_declared {crs : C} (hdeclared : source.crs = some crs)
    (hsame : source.transform.same Affine.identity = false) : ownSystem source = .ok crs := by
  have hown : source.georeference? = some ⟨crs, source.transform⟩ :=
    RasterSource.georeference?_eq_some_iff.2 ⟨hdeclared, hsame, rfl⟩
  unfold ownSystem
  rw [hown]

theorem ownSystem_of_missing
    (hmissing : source.crs = none ∨ source.transform.same Affine.identity = true) :
    ownSystem source = ReferenceSystem.build [("proj", .str "longlat")] Datum.wgs84 := by
  unfold ownSystem
  rw [RasterSource.georeference?_eq_none_iff.2 hmissing]

theorem systemOf_none (source : RasterSource α C) :
    systemOf none none source = ownSystem source := by
  unfold systemOf
  cases ownSystem source <;> rfl

theorem exists_ownSystem (h : ReferenceSystem.HasLongLat C) (source : RasterSource α C) :
    ∃ crs, ownSystem source = .ok crs := by
  unfold ownSystem
  cases source.georeference? with
  | some g => exact ⟨g.crs, rfl⟩
  | none =>
    obtain ⟨crs, hcrs, -⟩ := h
    exact ⟨crs, hcrs⟩

omit [ReferenceSystem C] in
theorem exists_placing_iff (b : ManualBounds α) (dx dy : α) (source : RasterSource α C) :
    (∃ transform, placing (some b) dx dy source = .ok transform) ↔
      source.cols ≠ 0 ∧ source.rows ≠ 0 := by
  unfold placing spread
  by_cases h : source.cols = 0 ∨ source.rows = 0
  case pos =>
    simp only [if_pos h]
    refine iff_of_false ?_ fun hne ↦ h.elim hne.1 hne.2
    rintro ⟨_, hcontra⟩
    cases hcontra
  case neg =>
    simp only [if_neg h]
    exact iff_of_true ⟨_, rfl⟩ (not_or.1 h)

/-- With bounds typed by hand alone, a source gets its own system and the affine map of the
bounds. -/
theorem resolve_eq_ok_iff_of_bounds (source : RasterSource α C) (r : ResolvedGeoreferences α C)
    (hbounds : options.manualBounds = some b) (hdatum : options.datum = .none)
    (hprojection : options.projection = none) : options.resolve [source] = .ok r ↔
      ∃ g, (ownSystem source = .ok g.crs ∧
        placing (some b) options.nudgeX options.nudgeY source = .ok g.transform) ∧
          ⟨[g], ReferenceSystem.datum g.crs⟩ = r := by
  have hkind : options.datum.datum options.sphereRadius = .ok none := by
    rw [hdatum]
    rfl
  have hone (g : Georeference α C) : options.resolveOne none source = .ok g ↔
      ownSystem source = .ok g.crs ∧
        placing (some b) options.nudgeX options.nudgeY source = .ok g.transform := by
    rw [resolveOne_eq_ok_iff, hbounds, hprojection, systemOf_none]
    exact and_iff_right fun _ ↦ rfl
  simp only [resolve_singleton_eq_ok_iff hkind, hone]

/-- Bounds typed by hand, with no other override, keep the reference system of a source whose own
affine map does something; only an image without pixels refuses them.  Longitudes and latitudes are
taken for a source without a reference system, and for one whose own affine map does nothing. -/
theorem bounds_keep_system (hlonglat : ReferenceSystem.HasLongLat C)
    (hbounds : options.manualBounds = some b) (hdatum : options.datum = .none)
    (hprojection : options.projection = none) (source : RasterSource α C) :
    ((∃ r, options.resolve [source] = .ok r) ↔ source.cols ≠ 0 ∧ source.rows ≠ 0) ∧
    ∀ r, options.resolve [source] = .ok r → ∃ g, r.georeferences = [g] ∧
      placing (some b) options.nudgeX options.nudgeY source = .ok g.transform ∧
      (source.transform.same Affine.identity = false →
        ∀ crs, source.crs = some crs → g.crs = crs) ∧
      (source.crs = none ∨ source.transform.same Affine.identity = true →
        ReferenceSystem.build [("proj", .str "longlat")] Datum.wgs84 = .ok g.crs ∧
          ReferenceSystem.isGeographic g.crs = true) := by
  have hresolve (r : ResolvedGeoreferences α C) :=
    resolve_eq_ok_iff_of_bounds source r hbounds hdatum hprojection
  constructor
  case left =>
    obtain ⟨crs, hcrs⟩ := exists_ownSystem hlonglat source
    rw [← exists_placing_iff b options.nudgeX options.nudgeY source]
    constructor
    · rintro ⟨r, hr⟩
      obtain ⟨g, ⟨-, hplacing⟩, -⟩ := (hresolve r).1 hr
      exact ⟨g.transform, hplacing⟩
    · rintro ⟨transform, hplacing⟩
      exact ⟨_, (hresolve _).2 ⟨⟨crs, transform⟩, ⟨hcrs, hplacing⟩, rfl⟩⟩
  case right =>
    intro r hr
    obtain ⟨g, ⟨hcrs, hplacing⟩, rfl⟩ := (hresolve r).1 hr
    refine ⟨g, rfl, hplacing, fun hsame crs hdeclared ↦ ?_, fun hmissing ↦ ?_⟩
    · rw [ownSystem_of_declared hdeclared hsame] at hcrs
      exact (Except.ok.inj hcrs).symm
    · rw [ownSystem_of_missing hmissing] at hcrs
      obtain ⟨crs, hbuild, hgeographic⟩ := hlonglat
      cases hbuild.symm.trans hcrs
      exact ⟨hcrs, hgeographic⟩

end

/-- An image spread by hand over a square of four hundred metres. -/
def byHand : GeoreferenceOptions Rat :=
  { manualBounds := some ⟨5000400, 5000000, 500400, 500000⟩, nudgeX := 0, nudgeY := 0 }

/-- An image that stands in its zone is spread over a square of that zone. -/
theorem bounds_keep_system_of_zone : ∃ crs r g, (scan (some 32633)).crs = some crs ∧
    byHand.resolve [scan (some 32633)] = .ok r ∧ r.georeferences = [g] ∧ g.crs = crs ∧
    g.transform = ⟨100, 0, 500000, 0, -100, 5000400⟩ := by
  obtain ⟨crs, hdeclared⟩ : ∃ crs, (scan (some 32633)).crs = some crs := ⟨_, rfl⟩
  have hbounds : byHand.manualBounds = some ⟨5000400, 5000000, 500400, 500000⟩ := rfl
  have hlonglat : ReferenceSystem.HasLongLat Crs := ⟨_, rfl, rfl⟩
  obtain ⟨hreturns, hkeeps⟩ := bounds_keep_system hlonglat hbounds rfl rfl (scan (some 32633))
  obtain ⟨r, hr⟩ := hreturns.2 (by decide)
  obtain ⟨g, hg, hplacing, hsystem, -⟩ := hkeeps r hr
  have hsquare : placing byHand.manualBounds 0 0 (scan (some 32633)) =
      .ok ⟨100, 0, 500000, 0, -100, 5000400⟩ := congrArg Except.ok (by decide +kernel)
  exact ⟨crs, r, g, hdeclared, hr, hg, hsystem rfl crs hdeclared,
    Except.ok.inj (hplacing.symm.trans hsquare)⟩

/-- The reference system of an image is lost to bounds typed by hand when its own affine map does
nothing: metres of a zone are read as degrees. -/
theorem bounds_drop_system : ∃ crs r g, (scan (some 32633) Affine.identity).crs = some crs ∧
    byHand.resolve [scan (some 32633) Affine.identity] = .ok r ∧ r.georeferences = [g] ∧
    crs.isGeographic = false ∧ g.crs.isGeographic = true ∧ g.crs ≠ crs := by
  obtain ⟨crs, hdeclared, hplane⟩ : ∃ crs,
      (scan (some 32633) Affine.identity).crs = some crs ∧ crs.isGeographic = false :=
    ⟨_, rfl, rfl⟩
  obtain ⟨r, g, hr, hg, hdegrees⟩ : ∃ r g,
      byHand.resolve [scan (some 32633) Affine.identity] = .ok r ∧ r.georeferences = [g] ∧
        g.crs.isGeographic = true := ⟨_, _, rfl, rfl, rfl⟩
  refine ⟨crs, r, g, hdeclared, hr, hg, hplane, hdegrees, fun hsame ↦ ?_⟩
  rw [hsame, hplane] at hdegrees
  cases hdegrees

end GeoreferenceOptions

end QuadMosaic
