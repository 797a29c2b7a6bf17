import QuadMosaic.Proofs.Faults
import QuadMosaic.Proofs.Overlay

/-!
# Datum and projection replaced independently

The parameters of a reference system are of two kinds, those of its datum and those of its
projection, told apart by their keys.  Replacing the datum writes the one kind and keeps the other,
replacing the projection the other way round, so that the last of two replacements of one kind
counts and replacements of different kinds commute.

What is read back from a system that was built is its parameters in another spelling
(`ReferenceSystem.Faithful`): a flag may stand for itself or as true, and the datum has a canonical
spelling of its own.  Every replacement is a `build`, and a system that was built is made of what it
was built from (`Faithful.madeOf_build`), so each law compares what two systems were built from
(`Faithful.agree_build`).  Main statement: `ReferenceSystem.replacements_are_independent`.
-/

namespace QuadMosaic

/-! ## Parameters of a datum -/

namespace Fields

theorem get?_filter (p : String → Bool) (fields : Fields) (key : String) :
    get? (fields.filter fun f ↦ p f.1) key = if p key then get? fields key else none := by
  induction fields with
  | nil => simp
  | cons f rest ih =>
    obtain ⟨k, v⟩ := f
    rw [List.filter_cons]
    by_cases hk : k = key
    · subst hk
      cases hp : p k with
      | true => simp [get?_cons]
      | false => simp [hp, ih]
    · split
      · rw [get?_cons, get?_cons, if_neg hk, if_neg hk, ih]
      · rw [get?_cons, if_neg hk, ih]

theorem get?_erase (fields : Fields) (k key : String) :
    get? (fields.erase k) key = if key = k then none else get? fields key := by
  have hfilter := get?_filter (fun key ↦ decide (key ≠ k)) fields key
  by_cases h : key = k <;> simpa [h, erase] using hfilter

/-- The members under given keys, in the order of the keys. -/
theorem get?_filterMap (fields : Fields) (ks : List String) (key : String) :
    get? (ks.filterMap fun k ↦ (fields.get? k).map (k, ·)) key =
      if key ∈ ks then get? fields key else none := by
  induction ks with
  | nil => rfl
  | cons k ks ih =>
    by_cases hk : key = k
    · subst hk
      cases hvalue : fields.get? key with
      | none => simp [hvalue, ih]
      | some value => simp [hvalue, get?_cons]
    · cases hvalue : fields.get? k with
      | none => simp [hvalue, ih, hk]
      | some value => simp [hvalue, get?_cons, ih, hk, Ne.symm hk]

theorem keys_filterMap_sublist (fields : Fields) (ks : List String) :
    (keys (ks.filterMap fun k ↦ (fields.get? k).map (k, ·))).Sublist ks := by
  induction ks with
  | nil => exact .slnil
  | cons k ks ih =>
    rw [List.filterMap_cons]
    cases fields.get? k with
    | none => exact ih.cons k
    | some v => exact ih.cons_cons k

end Fields

namespace Datum

variable {params params' : Fields} {key : String}

theorem mem_sortedKeys : key ∈ sortedKeys ↔ isKey key = true := by
  simp only [sortedKeys, isKey, keys, List.contains_iff_mem, List.mem_cons, List.not_mem_nil]
  tauto

theorem get?_paramsOf (params : Fields) (key : String) :
    (paramsOf params).get? key = if isKey key then params.get? key else none := by
  rw [paramsOf, Fields.get?_filterMap]
  simp only [mem_sortedKeys]

theorem get?_projectionParamsOf (params : Fields) (key : String) :
    (projectionParamsOf params).get? key = if isKey key then none else params.get? key := by
  rw [projectionParamsOf, Fields.get?_filter (fun key ↦ !isKey key)]
  cases isKey key <;> rfl

/-- Datum parameters are told by their values, whatever their order was. -/
theorem paramsOf_congr (h : ∀ key, isKey key = true → params.get? key = params'.get? key) :
    paramsOf params = paramsOf params' :=
  List.filterMap_congr fun key hkey ↦ by rw [h key (mem_sortedKeys.1 hkey)]

@[simp] theorem paramsOf_paramsOf (params : Fields) : paramsOf (paramsOf params) = paramsOf params :=
  paramsOf_congr fun key hkey ↦ by rw [get?_paramsOf, if_pos hkey]

/-- The parameters of a datum: there are some, they belong to a datum, and none is given twice. -/
structure IsProper (d : Datum) : Prop where
  nonempty : d.params ≠ []
  isKey : ∀ key ∈ d.params.keys, isKey key = true
  nodup : d.params.keys.Nodup

namespace IsProper

variable {d : Datum}

theorem get?_eq_none (h : d.IsProper) (hkey : Datum.isKey key = false) :
    d.params.get? key = none := by
  refine Fields.get?_eq_none_of_not_mem fun hmem ↦ ?_
  rw [h.isKey key hmem] at hkey
  cases hkey

theorem paramsOf_ne_nil (h : d.IsProper) : paramsOf d.params ≠ [] := by
  obtain ⟨⟨k, v⟩, rest, hparams⟩ := List.exists_cons_of_ne_nil h.nonempty
  have hkey : Datum.isKey k = true := h.isKey k (by simp [hparams, Fields.keys])
  intro hnil
  have hget := get?_paramsOf d.params k
  rw [hnil, if_pos hkey, hparams, Fields.get?_cons, if_pos rfl] at hget
  cases hget

end IsProper

theorem isProper_of_paramsOf {d : Datum} (h : d.params = paramsOf params) (hne : d.params ≠ []) :
    d.IsProper := by
  have hsub : d.params.keys.Sublist sortedKeys := by
    rw [h]
    exact Fields.keys_filterMap_sublist params sortedKeys
  exact ⟨hne, fun key hkey ↦ mem_sortedKeys.1 (hsub.subset hkey), hsub.nodup (by decide)⟩

theorem isProper_sphere (radius : Quantity) (name : String) : (sphere radius name).IsProper :=
  ⟨List.cons_ne_nil _ _, by simp [sphere, Fields.keys, isKey, keys], by simp [sphere, Fields.keys]⟩

end Datum

/-! ## Projections with all their numbers -/

namespace ProjectionSpec

/-- The numbers that a projection cannot do without; a zone is looked at by itself. -/
def needed (spec : ProjectionSpec) : List Json :=
  match spec.kind with
  | .plateCarree | .utm => []
  | .sinusoidal => [spec.lon]
  | .mercator | .transverseMercator | .orthographic | .stereographic | .lambertAzimuthal =>
    [spec.lat, spec.lon]
  | .lambertConformalConic => [spec.p1, spec.p2, spec.lat, spec.lon]

/-- A number of a zone, other than zero and not beyond sixty on either side. -/
def IsZone (value : Json) : Prop :=
  ∃ zone, Quantity.ofJson value = .ok zone ∧ Coordinate.same zone 0 = false ∧
    Quantity.below (.whole 60) (Scalar.abs zone) = false

/-- A projection has all the numbers that it needs. -/
structure IsComplete (spec : ProjectionSpec) : Prop where
  given : ∀ value ∈ spec.needed, value ≠ .null
  zone : spec.kind = .utm → IsZone spec.utmZone

theorem require_eq_ok {spec : ProjectionSpec} {value : Json} (h : value ≠ .null) (name : String) :
    spec.require name value = .ok value := by
  cases value with
  | null => exact absurd rfl h
  | _ => rfl

/-- None of the parameters belongs to a datum, and the flag that no defaults are added is not among
them. -/
def OwnOnly (params : Fields) : Prop :=
  ∀ key ∈ params.keys, Datum.isKey key = false ∧ key ≠ "no_defs"

/-- A projection that has all its numbers has parameters, all of them its own. -/
theorem IsComplete.exists_params {spec : ProjectionSpec} (h : spec.IsComplete) :
    ∃ params, spec.params = .ok params ∧ OwnOnly params := by
  obtain ⟨hgiven, hzone⟩ := h
  unfold needed at hgiven
  unfold ProjectionSpec.params
  cases hkind : spec.kind with
  | plateCarree => exact ⟨_, rfl, by simp [OwnOnly, Fields.keys, Datum.isKey, Datum.keys]⟩
  | sinusoidal =>
    simp only [hkind, List.forall_mem_cons] at hgiven
    simp only
    rw [bind_of_eq_ok (require_eq_ok hgiven.1 _)]
    exact ⟨_, rfl, by simp [OwnOnly, Fields.keys, Datum.isKey, Datum.keys]⟩
  | mercator | transverseMercator | orthographic | stereographic | lambertAzimuthal =>
    simp only [hkind, List.forall_mem_cons] at hgiven
    simp only
    rw [bind_of_eq_ok (require_eq_ok hgiven.1 _), bind_of_eq_ok (require_eq_ok hgiven.2.1 _)]
    exact ⟨_, rfl, by simp [OwnOnly, Fields.keys, Datum.isKey, Datum.keys]⟩
  | lambertConformalConic =>
    simp only [hkind, List.forall_mem_cons] at hgiven
    simp only
    rw [bind_of_eq_ok (require_eq_ok hgiven.1 _), bind_of_eq_ok (require_eq_ok hgiven.2.1 _),
      bind_of_eq_ok (require_eq_ok hgiven.2.2.1 _), bind_of_eq_ok (require_eq_ok hgiven.2.2.2.1 _)]
    exact ⟨_, rfl, by simp [OwnOnly, Fields.keys, Datum.isKey, Datum.keys]⟩
  | utm =>
    obtain ⟨zone, hquantity, hne, hle⟩ := hzone hkind
    simp only
    split
    case h_1 hnull => rw [hnull] at hquantity; cases hquantity
    case h_2 =>
      rw [bind_of_eq_ok hquantity]
      simp only [hne, hle, Bool.or_self, Bool.false_eq_true, if_false]
      refine ⟨_, rfl, ?_⟩
      split <;> simp [OwnOnly, Fields.keys, Datum.isKey, Datum.keys]

end ProjectionSpec

/-! ## Spellings -/

namespace ReferenceSystem

/-- A value as it is written among parameters: a flag stands alone, and one that is off does not
stand. -/
def flagged : Json → Option Json
  | .bool true => some .null
  | .bool false => none
  | value => some value

/-- What is written under a key. -/
def written (params : Fields) (key : String) : Option Json := (params.get? key).bind flagged

/-- Besides those of a datum, parameters are those of a projection, with the flag that no defaults
are added. -/
def HasProjection (params projection : Fields) : Prop :=
  ∀ key, Datum.isKey key = false →
    written params key = if key = "no_defs" then some .null else written projection key

/-- Parameters that say the same, for a spelling of datums. -/
structure Same (spell : Fields → Fields) (params params' : Fields) : Prop where
  plain : ∀ key, Datum.isKey key = false → written params key = written params' key
  datum : spell (Datum.paramsOf params) = spell (Datum.paramsOf params')

section

variable {projection : Fields} {d : Datum} {key : String}

theorem get?_combined (h : d.IsProper) (projection : Fields) (hkey : key ≠ "no_defs") :
    (combined projection d).get? key =
      if Datum.isKey key then d.params.get? key else projection.get? key := by
  rw [combined, Fields.get?_put, if_neg (Ne.symm hkey), Fields.get?_overlay h.nodup,
    Datum.get?_projectionParamsOf]
  cases hkind : Datum.isKey key with
  | true => simp
  | false => simp [h.get?_eq_none hkind]

theorem hasProjection_combined (h : d.IsProper) (projection : Fields) :
    HasProjection (combined projection d) projection := by
  intro key hkind
  unfold written
  split
  case isTrue heq =>
    rw [heq, combined, Fields.get?_put, if_pos rfl]
    rfl
  case isFalse hne =>
    rw [get?_combined h projection hne, hkind]
    rfl

/-- A projection on a datum has the parameters of the datum. -/
theorem paramsOf_combined (h : d.IsProper) (projection : Fields) :
    Datum.paramsOf (combined projection d) = Datum.paramsOf d.params := by
  refine Datum.paramsOf_congr fun key hkind ↦ ?_
  have hne : key ≠ "no_defs" := fun heq ↦ by
    rw [heq] at hkind
    exact absurd hkind (by decide)
  rw [get?_combined h projection hne, if_pos hkind]

variable {spell : Fields → Fields} {params params' projection' : Fields}

/-- Parameters of projections that are alike, on the same datum, say the same. -/
theorem HasProjection.same (h : HasProjection params projection)
    (h' : HasProjection params' projection')
    (hplain : ∀ key, Datum.isKey key = false → key ≠ "no_defs" →
      written projection key = written projection' key)
    (hdatum : spell (Datum.paramsOf params) = spell (Datum.paramsOf params')) :
    Same spell params params' where
  plain key hkey := by
    rw [h key hkey, h' key hkey]
    split
    case isTrue => rfl
    case isFalse hne => exact hplain key hkey hne
  datum := hdatum

end

section

variable {C : Type} [ReferenceSystem C] {spell : Fields → Fields} {projection projection' : Fields}
  {d d' : Datum} {spec : ProjectionSpec} {crs crs' crs'' : C}

theorem build_eq_ok_iff : build projection d = .ok crs ↔
    ofParams? (combined projection d) = some crs := by
  unfold build
  cases (ofParams? (combined projection d) : Option C) <;> simp

theorem build_of_refused (h : (ofParams? (combined projection d) : Option C) = none) :
    (build projection d : Except Fault C) =
      .error (.projection (.invalidParameters (combined projection d))) := by
  unfold build
  rw [h]

/-- The datum of a system always has parameters, which stand in order. -/
theorem exists_params_datum (crs : C) :
    (datum crs).params ≠ [] ∧ ∃ shown, (datum crs).params = Datum.paramsOf shown := by
  by_cases hnamed : Datum.paramsOf (params ((geodetic? crs).getD crs)) = []
  · have hparams : (datum crs).params = [("ellps", .str "WGS84")] := by simp [datum, hnamed]
    rw [hparams]
    exact ⟨List.cons_ne_nil _ _, [("ellps", .str "WGS84")], rfl⟩
  · have hparams : (datum crs).params = Datum.paramsOf (params ((geodetic? crs).getD crs)) := by
      simp [datum, hnamed]
    rw [hparams]
    exact ⟨hnamed, _, rfl⟩

theorem isProper_datum (crs : C) : (datum crs).IsProper := by
  obtain ⟨hne, shown, hshown⟩ := exists_params_datum crs
  exact Datum.isProper_of_paramsOf hshown hne

@[simp] theorem paramsOf_datum (crs : C) :
    Datum.paramsOf (datum crs).params = (datum crs).params := by
  obtain ⟨-, shown, hshown⟩ := exists_params_datum crs
  rw [hshown, Datum.paramsOf_paramsOf]

/-! ## Systems that show what they were built from -/

/-- Reference systems read their parameters back, each datum in one canonical spelling. -/
structure Faithful (C : Type) [ReferenceSystem C] (spell : Fields → Fields) : Prop where
  /-- Besides its datum, a system shows the parameters that it was built from. -/
  plain {params : Fields} {crs : C} : ofParams? params = some crs → ∀ key,
    Datum.isKey key = false → written (ReferenceSystem.params crs) key = written params key
  /-- It shows their datum in the canonical spelling. -/
  own {params : Fields} {crs : C} : ofParams? params = some crs →
    Datum.paramsOf (ReferenceSystem.params crs) = spell (Datum.paramsOf params)
  /-- Its geodetic system shows the same datum. -/
  geodetic {params : Fields} {crs : C} : ofParams? params = some crs →
    Datum.paramsOf (ReferenceSystem.params ((geodetic? crs).getD crs)) =
      spell (Datum.paramsOf params)
  /-- Parameters that say the same denote a system both or not at all. -/
  same {params params' : Fields} : Same spell params params' →
    (ofParams? params : Option C).isSome = (ofParams? params' : Option C).isSome
  /-- The canonical spelling is not spelled otherwise. -/
  spell_spell (datum : Fields) : spell (spell datum) = spell datum
  /-- No datum is lost in the canonical spelling. -/
  spell_ne_nil {datum : Fields} : datum ≠ [] → spell datum ≠ []

/-- A system has the parameters of a projection, with the flag that no defaults are added, and
exactly those of a datum; the datum that is read from it has the same. -/
structure MadeOf (crs : C) (projection datumParams : Fields) : Prop where
  plain : HasProjection (params crs) projection
  own : Datum.paramsOf (params crs) = datumParams
  datum : (datum crs).params = datumParams

/-- A result is the system of a projection on a datum: it is there exactly when parameters that say
so denote a system, and otherwise the parameters are refused. -/
structure Gives (spell : Fields → Fields) (result : Except Fault C)
    (projection datumParams : Fields) : Prop where
  exists_iff : ∀ source, HasProjection source projection →
    spell (Datum.paramsOf source) = datumParams →
      ((∃ crs, result = .ok crs) ↔ ∃ crs : C, ofParams? source = some crs)
  madeOf : ∀ crs, result = .ok crs → MadeOf crs projection datumParams
  refused : FailsOnly (∃ params, · = .projection (.invalidParameters params)) result

/-- Systems that have the same parameters, and whose datums do. -/
structure Alike (crs crs' : C) : Prop where
  same : Same id (params crs) (params crs')
  datum : (datum crs).params = (datum crs').params

/-- Results that agree: systems that are alike, or refusals of parameters. -/
inductive Agree : Except Fault C → Except Fault C → Prop
  | alike {crs crs' : C} (h : Alike crs crs') : Agree (.ok crs) (.ok crs')
  | refused (params params' : Fields) :
      Agree (.error (.projection (.invalidParameters params)))
        (.error (.projection (.invalidParameters params')))

/-- Systems made of the same parameters are alike. -/
theorem MadeOf.alike {datumParams : Fields} (h : MadeOf crs projection datumParams)
    (h' : MadeOf crs' projection' datumParams)
    (hplain : ∀ key, Datum.isKey key = false → key ≠ "no_defs" →
      written projection key = written projection' key) : Alike crs crs' where
  same := h.plain.same h'.plain hplain (h.own.trans h'.own.symm)
  datum := h.datum.trans h'.datum.symm

namespace Faithful

/-- A system that was built is made of what it was built from. -/
theorem madeOf_build (h : Faithful C spell) (hd : d.IsProper)
    (hbuild : build projection d = .ok crs) :
    MadeOf crs projection (spell (Datum.paramsOf d.params)) := by
  have hparams := build_eq_ok_iff.1 hbuild
  have hgeodetic := h.geodetic hparams
  rw [paramsOf_combined hd] at hgeodetic
  refine ⟨fun key hkey ↦ ?_, ?_, ?_⟩
  · rw [h.plain hparams key hkey, hasProjection_combined hd projection key hkey]
  · rw [h.own hparams, paramsOf_combined hd]
  · have hne := h.spell_ne_nil hd.paramsOf_ne_nil
    simp [datum, hgeodetic, hne]

theorem gives_build (h : Faithful C spell) (hd : d.IsProper) (projection : Fields) :
    Gives spell (build projection d : Except Fault C) projection
      (spell (Datum.paramsOf d.params)) where
  exists_iff source hsource hdatum := by
    have hsame : Same spell (combined projection d) source :=
      (hasProjection_combined hd projection).same hsource (fun _ _ _ ↦ rfl)
        (by rw [paramsOf_combined hd, hdatum])
    simp only [build_eq_ok_iff, ← Option.isSome_iff_exists, h.same hsame]
  madeOf _ hbuild := h.madeOf_build hd hbuild
  refused := .build projection d

/-- Building from parameters that say the same leads to the same. -/
theorem agree_build (h : Faithful C spell) (hd : d.IsProper) (hd' : d'.IsProper)
    (hplain : ∀ key, Datum.isKey key = false → key ≠ "no_defs" →
      written projection key = written projection' key)
    (hdatum : spell (Datum.paramsOf d.params) = spell (Datum.paramsOf d'.params)) :
    Agree (build projection d : Except Fault C) (build projection' d') := by
  have hsame : Same spell (combined projection d) (combined projection' d') := by
    refine (hasProjection_combined hd projection).same (hasProjection_combined hd' projection')
      hplain ?_
    rw [paramsOf_combined hd, paramsOf_combined hd', hdatum]
  have hboth := h.same hsame
  cases hleft : (ofParams? (combined projection d) : Option C) with
  | none =>
    rw [hleft] at hboth
    have hright := Option.isSome_eq_false_iff.1 hboth.symm
    rw [build_of_refused hleft, build_of_refused (Option.isNone_iff_eq_none.1 hright)]
    exact .refused _ _
  | some crs =>
    rw [hleft] at hboth
    obtain ⟨crs', hright⟩ := Option.isSome_iff_exists.1 hboth.symm
    have hbuild : build projection d = .ok crs := build_eq_ok_iff.2 hleft
    have hbuild' : build projection' d' = .ok crs' := build_eq_ok_iff.2 hright
    rw [hbuild, hbuild']
    have hmade := h.madeOf_build hd hbuild
    rw [hdatum] at hmade
    exact .alike (hmade.alike (h.madeOf_build hd' hbuild') hplain)

end Faithful

/-! ## The laws -/

theorem replaceProjection_eq (hspec : spec.params = .ok projection) (crs : C) :
    replaceProjection crs spec = build projection (datum crs) := bind_of_eq_ok hspec

namespace Faithful

/-- The datum that is put in last counts. -/
theorem replaceDatum_replaceDatum (h : Faithful C spell) (hd : d.IsProper) (hd' : d'.IsProper)
    (hcrs : replaceDatum crs d = .ok crs') :
    Agree (replaceDatum crs' d') (replaceDatum crs d') := by
  refine h.agree_build hd' hd' (fun key hkey hne ↦ ?_) rfl
  rw [(h.madeOf_build hd hcrs).plain key hkey, if_neg hne]

/-- A system in another projection keeps its datum. -/
theorem gives_replaceProjection (h : Faithful C spell) (hspec : spec.params = .ok projection)
    (crs : C) :
    Gives spell (replaceProjection crs spec) projection (spell (datum crs).params) := by
  have hgives := h.gives_build (isProper_datum crs) projection
  rwa [paramsOf_datum, ← replaceProjection_eq hspec] at hgives

/-- A projection and a datum may be put in one after the other, whichever comes first. -/
theorem replaceProjection_replaceDatum (h : Faithful C spell)
    (hspec : spec.params = .ok projection) (hd : d.IsProper)
    (hdatum : replaceDatum crs d = .ok crs') (hprojection : replaceProjection crs spec = .ok crs'') :
    Agree (replaceProjection crs' spec) (replaceDatum crs'' d) := by
  have hmade := h.madeOf_build hd hdatum
  have hmade' := (h.gives_replaceProjection hspec crs).madeOf crs'' hprojection
  rw [replaceProjection_eq hspec]
  refine h.agree_build (isProper_datum crs') hd (fun key hkey hne ↦ ?_) ?_
  · rw [hmade'.plain key hkey, if_neg hne]
  · rw [paramsOf_datum, hmade.datum, h.spell_spell]

end Faithful

/-- Datum and projection are replaced independently, and the last replacement counts.

For reference systems that show what they were built from, up to the spelling of the datum: a system
on another datum keeps all parameters that belong to none, with exactly those of the new datum; a
system in another projection has exactly the parameters of the projection, none of which belongs to
a datum, and keeps the datum.  A datum that is replaced leaves no trace, and a datum and a
projection may be put in in either order. -/
theorem replacements_are_independent (h : Faithful C spell) (crs : C) (hd : d.IsProper)
    (hd' : d'.IsProper) (hspec : spec.IsComplete) :
    ∃ projection, (spec.params = .ok projection ∧ ProjectionSpec.OwnOnly projection) ∧
      Gives spell (replaceDatum crs d) (params crs) (spell (Datum.paramsOf d.params)) ∧
      Gives spell (replaceProjection crs spec) projection (spell (datum crs).params) ∧
      (∀ onDatum, replaceDatum crs d = .ok onDatum →
        Agree (replaceDatum onDatum d') (replaceDatum crs d')) ∧
      ∀ onDatum projected, replaceDatum crs d = .ok onDatum →
        replaceProjection crs spec = .ok projected →
        Agree (replaceProjection onDatum spec) (replaceDatum projected d) := by
  obtain ⟨projection, hparams, hown⟩ := hspec.exists_params
  exact ⟨projection, ⟨hparams, hown⟩, h.gives_build hd (params crs),
    h.gives_replaceProjection hparams crs,
    fun onDatum hdatum ↦ h.replaceDatum_replaceDatum hd hd' hdatum,
    fun onDatum projected hdatum hprojection ↦
      h.replaceProjection_replaceDatum hparams hd hdatum hprojection⟩

end

/-! ## Systems as they are listed -/

/-- A reference system listed by its parameters, those of the projection and those of the datum. -/
structure Listed where
  plain : Fields
  datum : Fields

namespace Listed

/-- A flag that is on is listed by its name alone. -/
def listed : Json → Json
  | .bool true => .null
  | value => value

/-- A ball is listed by its radius, any other datum as it was given. -/
def spelling (datum : Fields) : Fields :=
  match datum.get? "a", datum.get? "b" with
  | some a, some b =>
    if a.same b then Datum.paramsOf (("R", a) :: (datum.erase "a").erase "b") else datum
  | _, _ => datum

instance instReferenceSystem : ReferenceSystem Listed where
  ofParams? params :=
    if (written params "proj").isSome then
      some {
        plain := (Datum.projectionParamsOf params).map fun f ↦ (f.1, listed f.2)
        datum := spelling (Datum.paramsOf params) }
    else none
  params crs := crs.plain ++ crs.datum
  geodetic? crs := some ⟨[("proj", .str "longlat"), ("no_defs", .null)], crs.datum⟩
  axes? _ := none
  datumName? _ := none
  isGeographic crs := (crs.plain.getD "proj").same (.str "longlat")

theorem spelling_cases (datum : Fields) : spelling datum = datum ∨
    ∃ a, spelling datum = Datum.paramsOf (("R", a) :: (datum.erase "a").erase "b") := by
  unfold spelling
  split
  · split
    · exact .inr ⟨_, rfl⟩
    · exact .inl rfl
  · exact .inl rfl

theorem get?_spelling (params : Fields) {key : String} (hkey : Datum.isKey key = false) :
    (spelling (Datum.paramsOf params)).get? key = none := by
  rcases spelling_cases (Datum.paramsOf params) with h | ⟨a, h⟩ <;>
    rw [h, Datum.get?_paramsOf, hkey] <;> rfl

theorem paramsOf_spelling (params : Fields) :
    Datum.paramsOf (spelling (Datum.paramsOf params)) = spelling (Datum.paramsOf params) := by
  rcases spelling_cases (Datum.paramsOf params) with h | ⟨a, h⟩ <;>
    rw [h, Datum.paramsOf_paramsOf]

theorem spelling_spelling (datum : Fields) : spelling (spelling datum) = spelling datum := by
  rcases spelling_cases datum with h | ⟨a, h⟩
  · rw [h, h]
  · have hnone : (spelling datum).get? "a" = none := by
      rw [h, Datum.get?_paramsOf, if_pos (by decide), Fields.get?_cons, if_neg (by decide),
        Fields.get?_erase, if_neg (by decide), Fields.get?_erase, if_pos rfl]
    unfold spelling at hnone ⊢
    rw [hnone]

theorem spelling_ne_nil {datum : Fields} (h : datum ≠ []) : spelling datum ≠ [] := by
  rcases spelling_cases datum with heq | ⟨a, heq⟩
  · rwa [heq]
  · intro hnil
    have hradius : (spelling datum).get? "R" = some a := by
      rw [heq, Datum.get?_paramsOf, if_pos (by decide), Fields.get?_cons, if_pos rfl]
    rw [hnil] at hradius
    cases hradius

theorem get?_map_listed (fields : Fields) (key : String) :
    Fields.get? (fields.map fun f ↦ (f.1, listed f.2)) key = (fields.get? key).map listed := by
  induction fields with
  | nil => rfl
  | cons f rest ih =>
    obtain ⟨k, v⟩ := f
    rw [List.map_cons, Fields.get?_cons, Fields.get?_cons]
    split
    · rfl
    · exact ih

theorem flagged_listed (value : Json) : flagged (listed value) = flagged value := by
  cases value with
  | bool b => cases b <;> rfl
  | _ => rfl

theorem paramsOf_append {plain : Fields}
    (h : ∀ key, Datum.isKey key = true → plain.get? key = none) (params : Fields) :
    Datum.paramsOf (plain ++ spelling (Datum.paramsOf params)) =
      spelling (Datum.paramsOf params) := by
  refine Eq.trans (Datum.paramsOf_congr fun key hkey ↦ ?_) (paramsOf_spelling params)
  rw [Fields.get?_append, h key hkey, Option.none_or]

theorem eq_of_ofParams? {params : Fields} {crs : Listed} (h : ofParams? params = some crs) :
    crs = ⟨(Datum.projectionParamsOf params).map fun f ↦ (f.1, listed f.2),
      spelling (Datum.paramsOf params)⟩ := by
  change (if (written params "proj").isSome then _ else none) = _ at h
  split at h
  · exact (Option.some.inj h).symm
  · cases h

/-- Listed systems show what they were built from. -/
theorem faithful : Faithful Listed spelling where
  plain hcrs key hkey := by
    rw [eq_of_ofParams? hcrs]
    unfold written ReferenceSystem.params
    change (Fields.get? (_ ++ _) key).bind flagged = _
    rw [Fields.get?_append, get?_spelling _ hkey, Option.or_none, get?_map_listed,
      Datum.get?_projectionParamsOf, hkey, Option.bind_map]
    exact Option.bind_congr fun value _ ↦ flagged_listed value
  own hcrs := by
    rw [eq_of_ofParams? hcrs]
    refine paramsOf_append (fun key hkey ↦ ?_) _
    rw [get?_map_listed, Datum.get?_projectionParamsOf, if_pos hkey, Option.map_none]
  geodetic hcrs := by
    rw [eq_of_ofParams? hcrs]
    refine paramsOf_append (fun key hkey ↦ ?_) _
    have hne (k : String) (h : Datum.isKey k = false) : k ≠ key := fun heq ↦ by
      rw [heq, hkey] at h
      cases h
    change Fields.get? [("proj", .str "longlat"), ("no_defs", .null)] key = none
    rw [Fields.get?_cons, if_neg (hne _ (by decide)), Fields.get?_cons,
      if_neg (hne _ (by decide)), Fields.get?_nil]
  same hsame := by
    have hproj := hsame.plain "proj" (by decide)
    change Option.isSome (if _ then some _ else none) = Option.isSome (if _ then some _ else none)
    rw [hproj]
    split <;> rfl
  spell_spell := spelling_spelling
  spell_ne_nil := spelling_ne_nil

end Listed

/-- Longitudes and latitudes on the datum of satellite positioning. -/
def globe : Listed :=
  ⟨[("proj", .str "longlat"), ("no_defs", .null)], [("datum", .str "WGS84")]⟩

/-- The northern half of zone 33. -/
def zone33 : ProjectionSpec := { kind := .utm, utmZone := .int 33 }

theorem isComplete_zone33 : zone33.IsComplete :=
  ⟨by simp [zone33, ProjectionSpec.needed], fun _ ↦ ⟨.whole 33, rfl, rfl, rfl⟩⟩

/-- The datum of a continent. -/
def northAmerica : Datum :=
  ⟨"NAD83", [("datum", .str "NAD83")], .real 6378137.0, .real 6356752.314140356⟩

theorem isProper_northAmerica : northAmerica.IsProper := ⟨by decide, by decide, by decide⟩

/-- The Moon is shown by its radius and leaves no trace when the continent takes its place; the zone
on the continent is the same whichever is put in first. -/
theorem replacements_are_independent_of_zone :
    ∃ onMoon onContinent inZone : Listed,
      (replaceDatum globe Datum.moon = .ok onMoon ∧
        Datum.paramsOf (params onMoon) = [("R", .real 1737400.0)]) ∧
      Agree (replaceDatum onMoon northAmerica) (replaceDatum globe northAmerica) ∧
      replaceDatum globe northAmerica = .ok onContinent ∧
      (replaceProjection globe zone33 = .ok inZone ∧
        (datum inZone).params = [("datum", .str "WGS84")]) ∧
      Agree (replaceProjection onContinent zone33) (replaceDatum inZone northAmerica) := by
  have hmoon : Datum.moon.IsProper := Datum.isProper_sphere _ _
  obtain ⟨onMoon, honMoon⟩ : ∃ crs : Listed, replaceDatum globe Datum.moon = .ok crs := ⟨_, rfl⟩
  obtain ⟨onContinent, honContinent⟩ : ∃ crs : Listed,
      replaceDatum globe northAmerica = .ok crs := ⟨_, rfl⟩
  obtain ⟨inZone, hinZone⟩ : ∃ crs : Listed, replaceProjection globe zone33 = .ok crs := ⟨_, rfl⟩
  obtain ⟨_, -, honto, -, hlast, -⟩ := replacements_are_independent Listed.faithful globe hmoon
    isProper_northAmerica isComplete_zone33
  obtain ⟨_, -, -, hinto, -, hboth⟩ := replacements_are_independent Listed.faithful globe
    isProper_northAmerica hmoon isComplete_zone33
  exact ⟨onMoon, onContinent, inZone, ⟨honMoon, (honto.madeOf onMoon honMoon).own.trans rfl⟩,
    hlast onMoon honMoon, honContinent, ⟨hinZone, (hinto.madeOf inZone hinZone).datum.trans rfl⟩,
    hboth onContinent inZone honContinent hinZone⟩

end ReferenceSystem

end QuadMosaic
