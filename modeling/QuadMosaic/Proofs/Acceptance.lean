import QuadMosaic.Proofs.Checks
import QuadMosaic.Proofs.Faults
import QuadMosaic.Proofs.Overlay
import QuadMosaic.Proofs.ReadBack

/-!
# Configurations that the schema lets through

The schema of a configuration and the reading of its options are written apart, and they agree:
whatever the schema lets through at a place is something that the reading takes there, as long as no
whole number is too great for a double.  What can still fail is what no schema of single places can
say: that the edges come all four or not at all, and that the options go together.

A reading that cannot fail is bounded by any `P` at all (`FailsOnly P`), so that it fits into every
chain; the one that can names what is lacking (`GeoreferenceOptions.LacksEdges`), which is never
true of what was read (`MosaicOptions.ReadFrom.not_lacksEdges`).  Main statement:
`MosaicOptions.valid_data_reads_or_is_refused`.
-/

namespace QuadMosaic

open Schema

/-- Every whole number in a value, however deep, is within the range of doubles. -/
inductive Json.InRange : Json → Prop
  | null : InRange .null
  | bool (b : Bool) : InRange (.bool b)
  | int {n : Int} (h : Scalar.isFinite (Scalar.ofInt n : Float) = true) : InRange (.int n)
  | real (x : Float) : InRange (.real x)
  | str (s : String) : InRange (.str s)
  | arr {items : List Json} (h : ∀ v ∈ items, InRange v) : InRange (.arr items)
  | obj {fields : Fields} (h : ∀ f ∈ fields, InRange f.2) : InRange (.obj fields)

/-- Two to the power 1024 is beyond that range. -/
example : Scalar.isFinite (Scalar.ofInt (16 ^ 256) : Float) = false := by decide +kernel

variable {P : Fault → Prop}

/-! ## Numbers -/

namespace Json

variable {value : Json}

theorem InRange.toReal (hrange : value.InRange) (hkind : Kind.number.holds value) :
    FailsOnly P value.toReal := by
  cases hrange with
  | @int n h =>
    have hreal : (Json.int n).toReal = .ok (Scalar.ofInt n) := if_pos h
    rw [hreal]
    exact .ok _
  | real x => exact .ok x
  | _ => cases hkind

theorem InRange.toReal? (hrange : value.InRange) (hkind : value ≠ .null → Kind.number.holds value) :
    FailsOnly P value.toReal? := by
  cases value with
  | null => exact .ok _
  | _ => exact (hrange.toReal (hkind Json.noConfusion)).map some

/-- A double without a fraction has an integer part. -/
theorem failsOnly_truncate {x : Float} (h : Kind.isWhole x) : FailsOnly P (truncate x) := by
  unfold Kind.isWhole at h
  unfold truncate Scalar.truncate
  rw [Double.floor_eq, Double.ceil_eq]
  cases hparts : Binary64.ofFloat x with
  | finite negative m e => split <;> exact .ok _
  | infinite _ => rw [hparts] at h; cases h
  | nan => rw [hparts] at h; cases h

theorem failsOnly_toInt (hkind : Kind.integer.holds value) : FailsOnly P value.toInt := by
  cases value with
  | int n => exact .ok n
  | real x => exact failsOnly_truncate hkind
  | _ => cases hkind

theorem failsOnly_toInt? (hkind : value ≠ .null → Kind.integer.holds value) :
    FailsOnly P value.toInt? := by
  cases value with
  | null => exact .ok _
  | _ => exact (failsOnly_toInt (hkind Json.noConfusion)).map some

end Json

/-! ## Members -/

/-- Each member that a schema knows has a valid value, with its numbers in range. -/
def Fields.Fit (schema : Schema) (fields : Fields) : Prop :=
  ∀ key member, schema.members.lookup key = some member → ∀ value, fields.get? key = some value →
    member.Accepts value ∧ value.InRange

/-- An object that may be left out is absent, or valid with its numbers in range. -/
def Json.MayFit (schema : Schema) (value : Json) : Prop :=
  value = .null ∨ schema.Accepts value ∧ value.InRange

/-- An object that fits a schema, or its absence, is taken for members that fit it. -/
theorem Json.MayFit.toMembers {required : List String} {members : List (String × Schema)}
    {value : Json} (h : value.MayFit (closedObject required members)) :
    value.toMembers = .ok value.members ∧ value.members.Fit (closedObject required members) := by
  rcases h with rfl | ⟨h, hrange⟩
  · exact ⟨rfl, fun _ _ _ _ hvalue ↦ by cases hvalue⟩
  · obtain ⟨fields, rfl, -⟩ := accepts_closedObject_iff.1 h
    refine ⟨rfl, fun key member hkey value hvalue ↦ ⟨h.get? hkey hvalue, ?_⟩⟩
    cases hrange with
    | obj hrange => exact hrange _ (Fields.mem_of_get? hvalue)

namespace Fields.Fit

variable {schema member : Schema} {fields : Fields} {key : String}

theorem getD (h : fields.Fit schema) (hkey : schema.members.lookup key = some member) :
    (fields.getD key).MayFit member := by
  unfold Fields.getD
  cases hvalue : fields.get? key with
  | none => exact .inl rfl
  | some value => exact .inr (h key member hkey value hvalue)

/-- A number that may be left out, or may be null. -/
theorem toReal? {floor : Option Int} (h : fields.Fit schema)
    (hkey : schema.members.lookup key = some { kinds := [.number, .null], floor }) :
    FailsOnly P (fields.getD key).toReal? := by
  rcases h.getD hkey with hnull | ⟨hvalid, hrange⟩
  · rw [hnull]
    exact .ok _
  · refine hrange.toReal? fun hne ↦ ?_
    obtain ⟨hkind, -⟩ := accepts_number_iff.1 hvalid
    cases hvalue : fields.getD key <;> simp_all [Kind.holds]

/-- An integer that may be left out, or may be null. -/
theorem toInt? {least greatest : Option Int} (h : fields.Fit schema)
    (hkey : schema.members.lookup key = some { kinds := [.integer, .null], least, greatest }) :
    FailsOnly P (fields.getD key).toInt? := by
  refine Json.failsOnly_toInt? fun hne ↦ ?_
  obtain ⟨hvalid, -⟩ := (h.getD hkey).resolve_left hne
  obtain ⟨hkind, -⟩ := accepts_number_iff.1 hvalid
  cases hvalue : fields.getD key <;> simp_all [Kind.holds]

/-- A number with a default. -/
theorem toReal (h : fields.Fit schema)
    (hkey : schema.members.lookup key = some (ofKinds [.number])) (default : Float) :
    FailsOnly P (fields.getOr key (.real default)).toReal := by
  unfold Fields.getOr
  cases hvalue : fields.get? key with
  | none => exact .ok _
  | some value =>
    obtain ⟨hvalid, hrange⟩ := h key _ hkey value hvalue
    exact hrange.toReal (by simpa using accepts_ofKinds_iff.1 hvalid)

/-- An integer with a default. -/
theorem toInt {least : Option Int} (h : fields.Fit schema)
    (hkey : schema.members.lookup key = some { kinds := [.integer], least }) (default : Int) :
    FailsOnly P (fields.getOr key (.int default)).toInt := by
  unfold Fields.getOr
  cases hvalue : fields.get? key with
  | none => exact .ok _
  | some value =>
    obtain ⟨hvalid, -⟩ := h key _ hkey value hvalue
    obtain ⟨hkind, -⟩ := accepts_number_iff.1 hvalid
    exact Json.failsOnly_toInt (by simpa using hkind)

end Fields.Fit

/-! ## Words -/

theorem Schema.exists_of_accepts_names {β : Type} {names : List β} {name : β → String}
    {value : Json} (h : (oneWordOf (names.map name)).Accepts value) :
    ∃ b, value = .str (name b) := by
  obtain ⟨w, hw, rfl⟩ := accepts_oneWordOf_iff.1 h
  obtain ⟨b, -, rfl⟩ := List.mem_map.1 hw
  exact ⟨b, rfl⟩

/-- A profile is named by one of the words of the schema, or left out. -/
theorem Profile.failsOnly_parse {fields : Fields} (h : fields.Fit mosaicConfig) :
    FailsOnly P (parse (fields.getOr "profile" (.str kml.name))) := by
  have hnamed : ∃ p, fields.getOr "profile" (.str kml.name) = .str (name p) := by
    unfold Fields.getOr
    cases hvalue : fields.get? "profile" with
    | none => exact ⟨kml, rfl⟩
    | some value =>
      have hvalid : (oneWordOf (all.map name)).Accepts value := (h "profile" _ rfl value hvalue).1
      exact exists_of_accepts_names hvalid
  obtain ⟨p, hp⟩ := hnamed
  rw [hp, parse_name]
  exact .ok p

/-- A datum is named by one of the words of the schema, or left out. -/
theorem DatumOverride.failsOnly_parse {value : Json}
    (h : value.MayFit (oneWordOf (all.map name))) : FailsOnly P (parse value) := by
  rcases h with rfl | ⟨h, -⟩
  · exact .ok _
  · obtain ⟨d, rfl⟩ := exists_of_accepts_names h
    rw [parse_name]
    exact .ok d

/-- A projection is named by one of the words of the schema, unless there is to be none. -/
theorem ProjectionKind.failsOnly_parse {value : Json}
    (h : (oneWordOf ("none" :: all.map name)).Accepts value) (hne : value ≠ .str "none") :
    FailsOnly P (parse value) := by
  obtain ⟨w, hw, rfl⟩ := accepts_oneWordOf_iff.1 h
  rcases List.mem_cons.1 hw with rfl | hw
  · exact absurd rfl hne
  · obtain ⟨k, -, rfl⟩ := List.mem_map.1 hw
    rw [parse_name]
    exact .ok k

/-! ## Groups of options -/

theorem ProjectionSpec.failsOnly_ofJson {value : Json} (h : value.MayFit projectionConfig) :
    FailsOnly P (ofJson value) := by
  obtain ⟨hmembers, hfit⟩ := Json.MayFit.toMembers h
  unfold ofJson
  rw [bind_of_eq_ok hmembers]
  split
  case h_1 => exact .ok _
  case h_2 => exact .ok _
  case h_3 hnull hnone =>
    obtain ⟨hvalid, -⟩ : (oneWordOf _).Accepts (value.members.getD "type") ∧ _ :=
      (hfit.getD rfl).resolve_left hnull
    exact (ProjectionKind.failsOnly_parse hvalid hnone).bind fun _ _ ↦
      (hfit.toReal rfl _).bind fun _ _ ↦ (hfit.toInt? rfl).bind fun _ _ ↦ .ok _

namespace ManualBounds

/-- Some of the edges are given and some are not. -/
def Lacks (edges : Fields) : Prop :=
  (∃ key ∈ keys, edges.getD key = .null) ∧ ∃ key ∈ keys, edges.getD key ≠ .null

/-- A failure for the lack of edges. -/
def Incomplete (e : Fault) : Prop := ∃ missing, e = .config (.incompleteBounds missing)

theorem exists_error_of_lacks {edges : Fields} (h : Lacks edges) :
    ∃ e, ofFields edges = .error e := by
  obtain ⟨⟨k, hk, hnull⟩, k', hk', hne⟩ := h
  unfold ofFields
  simp only
  split
  case isTrue hall =>
    have hgiven := List.filter_eq_self.1 hall k' hk'
    cases hvalue : edges.getD k' <;> simp_all
  split
  case isTrue => exact ⟨_, rfl⟩
  case isFalse hnone =>
    have hgiven := List.filter_eq_nil_iff.1 (not_not.1 hnone) k hk
    simp [hnull] at hgiven

theorem failsOnly_ofFields {edges : Fields} (h : edges.Fit boundsConfig) :
    FailsOnly (fun e ↦ Incomplete e ∧ Lacks edges) (ofFields edges) := by
  unfold ofFields
  simp only
  split
  case isTrue => exact .ok _
  case isFalse hall =>
    split
    case isTrue hmissing =>
      obtain ⟨k, hk⟩ := List.exists_mem_of_ne_nil _ hmissing
      obtain ⟨hk, hnull⟩ := List.mem_filter.1 hk
      refine .error ⟨⟨_, rfl⟩, ⟨k, hk, ?_⟩, ?_⟩
      · cases hvalue : edges.getD k <;> simp_all
      · by_contra! hnone
        exact hall (List.filter_eq_self.2 fun k' hk' ↦ by rw [hnone k' hk'])
    case isFalse hmissing =>
      have hedge {key : String} (hkey : key ∈ keys)
          (hlookup : boundsConfig.members.lookup key = some (ofKinds [.number])) :
          FailsOnly (fun e ↦ Incomplete e ∧ Lacks edges) (edges.getD key).toReal := by
        have hne : edges.getD key ≠ .null := fun hnull ↦ by
          have hgiven := List.filter_eq_nil_iff.1 (not_not.1 hmissing) key hkey
          simp [hnull] at hgiven
        obtain ⟨hvalid, hrange⟩ := (h.getD hlookup).resolve_left hne
        exact hrange.toReal (by simpa using accepts_ofKinds_iff.1 hvalid)
      exact (hedge (by decide) rfl).bind fun _ _ ↦ (hedge (by decide) rfl).bind fun _ _ ↦
        (hedge (by decide) rfl).bind fun _ _ ↦ (hedge (by decide) rfl).bind fun _ _ ↦ .ok _

theorem failsOnly_ofJson {value : Json} (h : value.MayFit boundsConfig) (global : Bool) :
    FailsOnly (fun e ↦ Incomplete e ∧ global = false ∧ Lacks value.members)
      (ofJson value global) := by
  obtain ⟨hmembers, hfit⟩ := Json.MayFit.toMembers h
  unfold ofJson
  rw [bind_of_eq_ok hmembers]
  cases global with
  | true => exact .ok _
  | false =>
    have hfails : FailsOnly (fun e ↦ Incomplete e ∧ false = false ∧ Lacks value.members)
        (ofFields value.members) :=
      (failsOnly_ofFields hfit).mono fun e he ↦ ⟨he.1, rfl, he.2⟩
    exact .ite (.ok _) (.ite (.ok _) hfails)

/-- Bounds that are read do not lack edges. -/
theorem not_lacks_of_ofJson {value : Json} {bounds : Option (ManualBounds Float)}
    (h : ofJson value false = .ok bounds) : ¬ Lacks value.members := by
  intro hlacks
  cases value with
  | obj edges =>
    obtain ⟨e, he⟩ : ∃ e, ofFields edges = .error e := exists_error_of_lacks hlacks
    obtain ⟨k, hk, hne⟩ := hlacks.2
    cases edges with
    | nil => exact hne rfl
    | cons f rest =>
      have hread : ofFields (f :: rest) = .ok bounds := h
      rw [he] at hread
      cases hread
  | _ =>
    obtain ⟨k, hk, hne⟩ := hlacks.2
    exact hne rfl

end ManualBounds

/-- The edges in a group of georeference options are neither all given nor all left out, and the
globe is not asked for. -/
def GeoreferenceOptions.LacksEdges (fields : Fields) : Prop :=
  (fields.getD "global").isGiven = false ∧ ManualBounds.Lacks (fields.members "bounds")

theorem GeoreferenceOptions.failsOnly_ofJson {value : Json} (h : value.MayFit georeferenceConfig) :
    FailsOnly (fun e ↦ ManualBounds.Incomplete e ∧ LacksEdges value.members) (ofJson value) := by
  obtain ⟨hmembers, hfit⟩ := Json.MayFit.toMembers h
  unfold ofJson
  rw [bind_of_eq_ok hmembers]
  refine (DatumOverride.failsOnly_parse (hfit.getD rfl)).bind fun _ _ ↦ ?_
  refine (hfit.toReal? rfl).bind fun _ _ ↦ ?_
  refine (ProjectionSpec.failsOnly_ofJson (hfit.getD rfl)).bind fun _ _ ↦ ?_
  refine (ManualBounds.failsOnly_ofJson (hfit.getD rfl) _).bind fun _ _ ↦ ?_
  exact (hfit.toReal rfl _).bind fun _ _ ↦ (hfit.toReal rfl _).bind fun _ _ ↦ .ok _

theorem PixelOptions.failsOnly_ofJson {value : Json} (h : value.MayFit pixelsConfig) :
    FailsOnly P (ofJson value) := by
  obtain ⟨hmembers, hfit⟩ := Json.MayFit.toMembers h
  unfold ofJson
  rw [bind_of_eq_ok hmembers]
  exact (hfit.toReal? rfl).bind fun _ _ ↦ (hfit.toReal rfl _).bind fun _ _ ↦
    (hfit.toReal rfl _).bind fun _ _ ↦ .ok _

/-! ## All options -/

namespace MosaicOptions

/-- Inputs are an array of texts, or left out. -/
theorem failsOnly_inputsOf {value : Json} {nonEmpty : Bool}
    (h : value.MayFit { kinds := [.array], nonEmpty, items := some someText }) :
    FailsOnly P (inputsOf value) := by
  rcases h with rfl | ⟨h, -⟩
  · exact .ok _
  · obtain ⟨items, rfl, hitems⟩ := exists_of_accepts_array h
    refine .ite (.ok _) (.mapM fun item hitem ↦ ?_)
    obtain ⟨s, rfl, -⟩ := accepts_someText_iff.1 (hitems item hitem)
    exact .ok _

/-- Data that fits the schema is read, unless it lacks edges. -/
theorem failsOnly_readFields {fields : Fields} (h : fields.Fit mosaicConfig) :
    FailsOnly (fun e ↦ ManualBounds.Incomplete e ∧
      GeoreferenceOptions.LacksEdges (fields.members "georeference")) (readFields fields) := by
  unfold readFields
  refine (failsOnly_inputsOf (h.getD rfl)).bind fun _ _ ↦ ?_
  refine (Profile.failsOnly_parse h).bind fun _ _ ↦ ?_
  refine (GeoreferenceOptions.failsOnly_ofJson (h.getD rfl)).bind fun _ _ ↦ ?_
  refine (PixelOptions.failsOnly_ofJson (h.getD rfl)).bind fun _ _ ↦ ?_
  exact (h.toInt rfl _).bind fun _ _ ↦ (h.toInt? rfl).bind fun _ _ ↦ (h.toInt rfl _).bind fun _ _ ↦
    (h.toInt rfl _).bind fun _ _ ↦ (h.toInt rfl _).bind fun _ _ ↦ .ok _

/-- Options are read exactly from members that they have. -/
theorem readFields_eq_ok_iff {fields : Fields} {o : MosaicOptions} :
    readFields fields = .ok o ↔ o.ReadFrom fields := by
  refine ⟨readFrom_of_readFields, fun h ↦ ?_⟩
  obtain ⟨inputs, outputName, profile, georeference, pixels, aspectRatio, globalResolution,
    tileSize, fileType, channelType, multiband, maxLodPixels, drawOrderOffset, terrain, moduleName,
    writer⟩ := o
  obtain ⟨hinputs, rfl, hprofile, hgeoreference, hpixels, haspect, hresolution, htile, rfl, rfl,
    rfl, hlod, hoffset, rfl, rfl, rfl⟩ := h
  unfold readFields
  rw [bind_of_eq_ok hinputs, bind_of_eq_ok hprofile, bind_of_eq_ok hgeoreference,
    bind_of_eq_ok hpixels, bind_of_eq_ok haspect, bind_of_eq_ok hresolution, bind_of_eq_ok htile,
    bind_of_eq_ok hlod, bind_of_eq_ok hoffset]
  rfl

/-- Options that were read fail their checks for a cause of their own: the radius of a ball is a
double by then, so that nothing is left to be converted. -/
theorem failsOnly_validate {o : MosaicOptions} (h : o.georeference.IsRead) :
    FailsOnly (∃ cause, · = .config cause) o.validate := by
  have hrefuse (condition : Bool) (cause : ConfigFault) :
      FailsOnly (∃ cause, · = .config cause) (refuse condition cause) :=
    .ite (.error ⟨cause, rfl⟩) (.ok ())
  have hdatum : FailsOnly (∃ cause, · = .config cause)
      (o.georeference.datum.datum o.georeference.sphereRadius) := by
    obtain ⟨radius, hradius⟩ := h.sphereRadius
    rw [hradius]
    cases o.georeference.datum with
    | sphere =>
      cases radius with
      | none => exact .error ⟨_, rfl⟩
      | some x => exact .ite (.error ⟨_, rfl⟩) (.ok _)
    | _ => exact .ok _
  unfold validate
  exact (hrefuse _ _).bind fun _ _ ↦ (hrefuse _ _).bind fun _ _ ↦ (hrefuse _ _).bind fun _ _ ↦
    (hrefuse _ _).bind fun _ _ ↦ (hrefuse _ _).bind fun _ _ ↦ (hrefuse _ _).bind fun _ _ ↦
      (hrefuse _ _).bind fun _ _ ↦ (hrefuse _ _).bind fun _ _ ↦ hdatum.bind fun _ _ ↦ .ok _

/-- Options that were read and that pass every check are what an object gives. -/
theorem ofFields_eq_ok_iff {fields : Fields} {o : MosaicOptions} :
    ofFields fields = .ok o ↔ o.ReadFrom fields ∧ o.Passes := by
  unfold ofFields
  constructor
  · intro h
    obtain ⟨_, hread, h⟩ := exists_of_bind_eq_ok h
    obtain ⟨_, hchecked, h⟩ := exists_of_bind_eq_ok h
    cases h
    exact ⟨readFields_eq_ok_iff.1 hread, validate_eq_ok_iff.1 hchecked⟩
  · rintro ⟨hread, hpasses⟩
    have hchecked : o.validate = .ok () := validate_eq_ok_iff.2 hpasses
    rw [bind_of_eq_ok (readFields_eq_ok_iff.2 hread), bind_of_eq_ok hchecked]
    rfl

theorem ReadFrom.not_lacksEdges {fields : Fields} {o : MosaicOptions} (h : o.ReadFrom fields) :
    ¬ GeoreferenceOptions.LacksEdges (fields.members "georeference") := by
  rintro ⟨hglobal, hlacks⟩
  obtain ⟨ms, hms, hread⟩ := GeoreferenceOptions.readFrom_of_ofJson h.georeference
  obtain rfl := Fields.members_eq_of_toMembers hms
  have hbounds := hread.manualBounds
  rw [hglobal] at hbounds
  exact ManualBounds.not_lacks_of_ofJson hbounds hlacks

/-- The schema and the reading agree.

An object that the schema lets through, whose whole numbers are within the range of doubles, either
gives options that pass every check or is refused as a configuration.  It never fails in a
conversion, whichever members are there, absent, null or no number.  Options can be read from it
exactly when it does not lack edges, and it gives the options that are read from it exactly when
these pass every check. -/
theorem valid_data_reads_or_is_refused {fields : Fields}
    (hvalid : mosaicConfig.Accepts (.obj fields)) (hrange : (Json.obj fields).InRange) :
    ((∃ o, ofFields fields = .ok o ∧ o.Passes) ∨
      ∃ cause, ofFields fields = .error (.config cause)) ∧
    ((∃ o : MosaicOptions, o.ReadFrom fields) ↔
      ¬ GeoreferenceOptions.LacksEdges (fields.members "georeference")) ∧
    ∀ o, ofFields fields = .ok o ↔ o.ReadFrom fields ∧ o.Passes := by
  obtain ⟨-, hfit⟩ := Json.MayFit.toMembers (.inr ⟨hvalid, hrange⟩)
  have hreads := failsOnly_readFields hfit
  have hfails : FailsOnly (∃ cause, · = .config cause) (ofFields fields) := by
    unfold ofFields
    refine FailsOnly.bind (hreads.mono ?_) fun o ho ↦ ?_
    · rintro e ⟨⟨missing, rfl⟩, -⟩
      exact ⟨_, rfl⟩
    · exact (failsOnly_validate (readFields_eq_ok_iff.1 ho).isRead.georeference).bind fun _ _ ↦
        .ok o
  refine ⟨?_, ⟨fun ⟨_, h⟩ ↦ h.not_lacksEdges, fun hedges ↦ ?_⟩, fun _ ↦ ofFields_eq_ok_iff⟩
  · cases hread : ofFields fields with
    | error e =>
      obtain ⟨cause, rfl⟩ := hfails e hread
      exact .inr ⟨cause, rfl⟩
    | ok o => exact .inl ⟨o, rfl, (ofFields_eq_ok_iff.1 hread).2⟩
  · cases hread : readFields fields with
    | error e => exact absurd (hreads e hread).2 hedges
    | ok o => exact ⟨o, readFields_eq_ok_iff.1 hread⟩

/-- A configuration with a size written as a fraction, a radius that is no number, null for a
resolution, and some edges. -/
def oddConfig (edges : Fields) : Fields :=
  [("inputs", .arr [.str "a.tif"]), ("tile_size", .real 512.0), ("global_resolution", .null),
    ("georeference", .obj [("datum", .str "sphere"), ("sphere_radius", .real (0.0 / 0.0)),
      ("bounds", .obj edges)])]

theorem inRange_oddConfig {edges : Fields} (h : (Json.obj edges).InRange) :
    (Json.obj (oddConfig edges)).InRange := by
  have hinputs : (Json.arr [.str "a.tif"]).InRange := .arr (by simp [Json.InRange.str])
  have hgeoreference : (Json.obj [("datum", .str "sphere"), ("sphere_radius", .real (0.0 / 0.0)),
      ("bounds", .obj edges)]).InRange :=
    .obj (by simp [Json.InRange.str, Json.InRange.real, h])
  exact .obj (by simp [oddConfig, hinputs, hgeoreference, Json.InRange.real, Json.InRange.null])

/-- It is read when it has all four edges, and refused when it has two. -/
theorem valid_data_reads_or_is_refused_of_odd_data :
    (∃ o, ofFields (oddConfig [("north", .int 1), ("south", .real 0.0), ("east", .int 1),
      ("west", .real 0.0)]) = .ok o ∧ o.Passes) ∧
    ∃ cause, ofFields (oddConfig [("north", .int 1), ("south", .real 0.0)]) =
      .error (.config cause) := by
  have hone : (Json.int 1).InRange := .int rfl
  constructor
  · refine (valid_data_reads_or_is_refused (by rfl)
      (inRange_oddConfig (.obj ?_))).1.resolve_right ?_
    · simp [hone, Json.InRange.real]
    · rintro ⟨cause, h⟩
      cases h
  · refine (valid_data_reads_or_is_refused (by rfl)
      (inRange_oddConfig (.obj ?_))).1.resolve_left ?_
    · simp [hone, Json.InRange.real]
    · rintro ⟨o, h, -⟩
      cases h

end MosaicOptions

end QuadMosaic
