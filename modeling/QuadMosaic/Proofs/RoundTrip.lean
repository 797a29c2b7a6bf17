import QuadMosaic.Proofs.Checks
import QuadMosaic.Proofs.ReadBack

/-!
# The round trip of options

Options turned into data and read again are the same options, but for the name of the output, which
the data holds even when it was made from the first input.  The data of a valid configuration is
valid: what was read as a number or a truth value is written as one, names are written as the schema
spells them, and what is kept as it was written is valid as it was.

Two bounds of the schema need an argument, since the value that is written is not the one that was
checked: a radius above zero is still so as a double, and a zone between the bounds still so as an
integer.
-/

namespace QuadMosaic

open Schema

namespace ProjectionSpec

/-- The zone as it was written is between the bounds, so the integer that it is taken for is. -/
theorem accepts_zone {fields : Fields} {n : Int} (h : projectionConfig.Accepts (.obj fields))
    (hn : (fields.getD "utm_zone").toInt? = .ok (some n)) : Accepts
      { kinds := [.integer, .null], least := some (-60), greatest := some 60 } (.int n) := by
  obtain ⟨hnull, hn⟩ := Json.toInt_of_toInt? hn
  have hgiven := h.getD rfl hnull
  generalize fields.getD "utm_zone" = value at *
  obtain ⟨hkind, hleast, hgreatest, -⟩ := accepts_number_iff.1 hgiven
  have hinteger : Kind.integer.holds value := by cases value <;> simp_all [Kind.holds]
  obtain ⟨hlow, hhigh⟩ := Json.mem_of_toInt hinteger (hleast _ rfl) (hgreatest _ rfl) hn
  refine accepts_number_iff.2 ⟨.inr rfl, ?_, ?_, by simp⟩
  · rintro b ⟨⟩
    exact decide_eq_false (Int.not_lt.2 hlow)
  · rintro b ⟨⟩
    exact decide_eq_false (Int.not_lt.2 hhigh)

theorem accepts_toFields {value : Json} {spec : ProjectionSpec} (h : projectionConfig.Accepts value)
    (hread : ofJson value = .ok (some spec)) :
    projectionConfig.Accepts (.obj spec.toFields.dropNulls) := by
  obtain ⟨fields, rfl, -⟩ := accepts_closedObject_iff.1 h
  obtain ⟨_, ⟨⟩, hread⟩ := readFrom_of_ofJson hread
  obtain ⟨scale, -, hscale⟩ := hread.scale
  obtain ⟨zone, hzone, hzone'⟩ := hread.utmZone
  refine accepts_closedObject (by decide) (by simp [Fields.has, Fields.get?, toFields,
    Fields.unlessNull]) ?_
  simp only [toFields, hread.lat, hread.lon, hscale, hread.p1, hread.p2, hzone',
    Fields.dropNulls_cons, Fields.dropNulls_nil, List.append_nil, List.forall_mem_append,
    Fields.forall_mem_unlessNull]
  refine ⟨fun _ ↦ ⟨_, rfl, accepts_oneWordOf_iff.2 ⟨_, ?_, rfl⟩⟩,
    fun hlat ↦ ⟨_, rfl, h.getD rfl hlat⟩, fun hlon ↦ ⟨_, rfl, h.getD rfl hlon⟩,
    fun _ ↦ ⟨_, rfl, accepts_real scale⟩, fun hp1 ↦ ⟨_, rfl, h.getD rfl hp1⟩,
    fun hp2 ↦ ⟨_, rfl, h.getD rfl hp2⟩,
    admits_ofOption fun n hn ↦ ⟨_, rfl, accepts_zone h (hzone.trans (congrArg _ hn))⟩⟩
  cases spec.kind <;> decide

end ProjectionSpec

theorem ManualBounds.accepts_toJson (b : ManualBounds Float) :
    boundsConfig.Accepts b.toJson := by
  refine accepts_closedObject (by decide) (by simp) ?_
  simp only [List.forall_mem_cons]
  exact ⟨⟨_, rfl, accepts_real _⟩, ⟨_, rfl, accepts_real _⟩, ⟨_, rfl, accepts_real _⟩,
    ⟨_, rfl, accepts_real _⟩, by simp⟩

theorem PixelOptions.accepts_toFields (o : PixelOptions Float) :
    pixelsConfig.Accepts (.obj o.toFields) := by
  refine accepts_closedObject (by decide) (by simp) ?_
  simp only [toFields, List.forall_mem_append, List.forall_mem_cons, Fields.forall_mem_unlessNull]
  exact ⟨admits_ofOption fun x _ ↦ ⟨_, rfl, accepts_ofKinds_iff.2 (.inr rfl)⟩,
    ⟨_, rfl, accepts_real _⟩, ⟨_, rfl, accepts_real _⟩, ⟨_, rfl, accepts_bool _⟩, by simp⟩

namespace GeoreferenceOptions

/-- The radius as it was written is above zero, so the double that it is taken for is. -/
theorem accepts_sphereRadius {fields : Fields} {x : Float}
    (h : georeferenceConfig.Accepts (.obj fields))
    (hx : (fields.getD "sphere_radius").toReal? = .ok (some x)) :
    Accepts { kinds := [.number, .null], floor := some 0 } (.real x) := by
  obtain ⟨hnull, hx⟩ := Json.toReal_of_toReal? hx
  have hgiven := h.getD rfl hnull
  generalize fields.getD "sphere_radius" = value at *
  obtain ⟨hkind, -, -, hfloor⟩ := accepts_number_iff.1 hgiven
  have hnumber : Kind.number.holds value := by cases value <;> simp_all [Kind.holds]
  refine accepts_number_iff.2 ⟨.inr rfl, by simp, by simp, ?_⟩
  rintro b ⟨⟩
  exact Json.isAtMost_zero_of_toReal hnumber (hfloor _ rfl) hx

theorem accepts_toFields {value : Json} {o : GeoreferenceOptions Float}
    (h : value ≠ .null → georeferenceConfig.Accepts value) (hread : ofJson value = .ok o) :
    georeferenceConfig.Accepts (.obj o.toFields) := by
  obtain ⟨fields, hfields, hread⟩ := readFrom_of_ofJson hread
  have h : georeferenceConfig.Accepts (.obj fields) := Accepts.toMembers h hfields
  obtain ⟨radius, hradius, hradius'⟩ := hread.sphereRadius
  refine accepts_closedObject (by decide) (by simp) ?_
  simp only [toFields, hradius', List.forall_mem_append, List.forall_mem_cons,
    Fields.forall_mem_unlessNull]
  refine ⟨⟨⟨⟨⟨_, rfl, ?datum⟩, ⟨_, rfl, accepts_real _⟩, ⟨_, rfl, accepts_real _⟩, by simp⟩,
    admits_ofOption fun r hr ↦ ⟨_, rfl, ?sphereRadius⟩⟩,
    admits_ofOption fun spec hspec ↦ ⟨_, rfl, ?projection⟩⟩,
    admits_ofOption fun b _ ↦ ⟨_, rfl, b.accepts_toJson⟩⟩
  case datum =>
    refine accepts_oneWordOf_iff.2 ⟨_, ?_, rfl⟩
    cases o.datum <;> decide
  case sphereRadius =>
    obtain ⟨x, rfl, rfl⟩ := Option.map_eq_some_iff.1 hr
    exact accepts_sphereRadius h hradius
  case projection =>
    have hprojection := hread.projection.trans (congrArg _ hspec)
    have hnull : fields.getD "projection" ≠ .null := by
      intro hnull
      rw [hnull] at hprojection
      cases hprojection
    exact ProjectionSpec.accepts_toFields (h.getD rfl hnull) hprojection

end GeoreferenceOptions

namespace MosaicOptions

/-- What valid options are known to be, as far as their data shows it. -/
structure IsValid (o : MosaicOptions) : Prop where
  inputs : o.inputs ≠ []
  aspectRatio : 0 < o.aspectRatio
  tileSize : 0 < o.tileSize
  globalResolution : ∀ n ∈ o.globalResolution, 0 < n

theorem isValid_of_validate {o : MosaicOptions} {u : Unit} (h : o.validate = .ok u) :
    o.IsValid := by
  have h := validate_eq_ok_iff.1 h
  exact ⟨h.inputs, pos_of_isPowerOfTwo h.aspectRatio, pos_of_isPowerOfTwo h.tileSize,
    h.globalResolution⟩

theorem accepts_fieldsNamed {fields : Fields} {o : MosaicOptions} {name : Json}
    (h : mosaicConfig.Accepts (.obj fields)) (hread : o.ReadFrom fields) (hvalid : o.IsValid)
    (hname : (ofKinds [.string, .null]).Accepts name) :
    mosaicConfig.Accepts (.obj (o.fieldsNamed name)) := by
  refine accepts_closedObject (by decide) (by simp [Fields.has, Fields.get?, fieldsNamed]) ?_
  simp only [fieldsNamed, hread.channelType, hread.moduleName, List.forall_mem_append,
    List.forall_mem_cons, Fields.forall_mem_unlessNull]
  refine ⟨⟨⟨⟨⟨_, rfl, ?inputs⟩, ⟨_, rfl, hname⟩, ⟨_, rfl, ?profile⟩, ⟨_, rfl, ?georeference⟩,
    ⟨_, rfl, o.pixels.accepts_toFields⟩, ⟨_, rfl, ?aspectRatio⟩, ⟨_, rfl, ?tileSize⟩,
    ⟨_, rfl, ?fileType⟩, ⟨_, rfl, accepts_bool _⟩, ⟨_, rfl, ?maxLodPixels⟩,
    ⟨_, rfl, ?drawOrderOffset⟩, ⟨_, rfl, accepts_bool _⟩, ⟨_, rfl, ?writer⟩, by simp⟩,
    admits_ofOption fun n hn ↦
      ⟨_, rfl, accepts_atLeast_one (by decide) (hvalid.globalResolution n hn)⟩⟩,
    fun hne ↦ ⟨_, rfl, h.getD rfl hne⟩⟩,
    fun hne ↦ ⟨_, rfl, h.getD rfl hne⟩⟩
  case inputs =>
    refine accepts_array (fun _ ↦ by simpa using hvalid.inputs) fun v hv ↦ ?_
    obtain ⟨p, hp, rfl⟩ := List.mem_map.1 hv
    have hclean := isClean_of_inputsOf hread.inputs p hp
    exact accepts_someText_iff.2
      ⟨_, rfl, Path.toString_ne_empty fun part hpart ↦ (hclean.parts part hpart).1⟩
  case profile =>
    refine accepts_oneWordOf_iff.2 ⟨_, ?_, rfl⟩
    cases o.profile <;> decide
  case georeference =>
    exact GeoreferenceOptions.accepts_toFields (h.getD rfl) hread.georeference
  case aspectRatio => exact accepts_atLeast_one (by decide) hvalid.aspectRatio
  case tileSize => exact accepts_atLeast_one (by decide) hvalid.tileSize
  case fileType =>
    rw [hread.fileType]
    exact accepts_display (h.getOr rfl (accepts_someText_iff.2 ⟨_, rfl, by decide⟩))
  case maxLodPixels => exact accepts_ofKinds_iff.2 (.inr rfl)
  case drawOrderOffset => exact accepts_ofKinds_iff.2 (.inr rfl)
  case writer =>
    rw [hread.writer]
    exact accepts_display (h.getOr rfl (accepts_someText_iff.2 ⟨_, rfl, by decide⟩))

/-- What is read was read from the members and passed the check. -/
theorem readFields_of_ofFields {fields : Fields} {o : MosaicOptions} (h : ofFields fields = .ok o) :
    readFields fields = .ok o ∧ ∃ u, o.validate = .ok u := by
  obtain ⟨o', hread, h⟩ := exists_of_bind_eq_ok h
  obtain ⟨u, hvalid, h⟩ := exists_of_bind_eq_ok h
  cases h
  exact ⟨hread, u, hvalid⟩

theorem resolvedOutputName_cases {o : MosaicOptions} {name : Json}
    (h : o.resolvedOutputName = .ok name) :
    name = o.outputName ∧ o.outputName.isGiven ∨
      ∃ p ∈ o.inputs, ∃ q, p.withoutSuffix? = some q ∧ name = .str q.toString := by
  unfold resolvedOutputName at h
  split at h
  case isTrue hgiven =>
    cases h
    exact .inl ⟨rfl, hgiven⟩
  case isFalse =>
    split at h
    case h_1 q hq =>
      cases h
      obtain ⟨p, hp, hq⟩ := Option.bind_eq_some_iff.1 hq
      exact .inr ⟨p, List.mem_of_head? hp, q, hq, rfl⟩
    case h_2 => cases h

theorem isGiven_of_resolvedOutputName {o : MosaicOptions} {name : Json}
    (hinputs : ∀ p ∈ o.inputs, p.IsClean) (h : o.resolvedOutputName = .ok name) :
    name.isGiven := by
  rcases resolvedOutputName_cases h with ⟨rfl, hgiven⟩ | ⟨p, hp, q, hq, rfl⟩
  · exact hgiven
  · simpa [Json.isGiven] using (hinputs p hp).toString_withoutSuffix_ne_empty hq

theorem accepts_resolvedOutputName {fields : Fields} {o : MosaicOptions} {name : Json}
    (hfields : mosaicConfig.Accepts (.obj fields)) (hread : o.ReadFrom fields)
    (h : o.resolvedOutputName = .ok name) : (ofKinds [.string, .null]).Accepts name := by
  rcases resolvedOutputName_cases h with ⟨rfl, hgiven⟩ | ⟨_, -, _, -, rfl⟩
  · rw [hread.outputName] at hgiven ⊢
    refine hfields.getD rfl fun hnull ↦ ?_
    rw [hnull] at hgiven
    cases hgiven
  · exact accepts_ofKinds_iff.2 (.inr rfl)

/-- The data of options gives the same options again, now with the name that was made from the first
input, and these have the same data; the data of a valid configuration is valid. -/
theorem data_reads_back {fields data : Fields} {o : MosaicOptions}
    (hfields : ofFields fields = .ok o) (hdata : o.toFields = .ok data) :
    ∃ name, o.resolvedOutputName = .ok name ∧
      ofFields data = .ok { o with outputName := name } ∧
      ({ o with outputName := name } : MosaicOptions).toFields = .ok data ∧
      (mosaicConfig.Accepts (.obj fields) → mosaicConfig.Accepts (.obj data)) := by
  obtain ⟨hread, u, hvalidate⟩ := readFields_of_ofFields hfields
  have hfrom := readFrom_of_readFields hread
  have hvalid := isValid_of_validate hvalidate
  have hempty : ¬ o.inputs.isEmpty := by simpa using hvalid.inputs
  rw [toFields, if_neg hempty] at hdata
  obtain ⟨name, hname, hdata⟩ := exists_of_bind_eq_ok hdata
  cases hdata
  have hgiven := isGiven_of_resolvedOutputName hfrom.isRead.inputs hname
  refine ⟨name, hname, ?_, ?_, fun haccepts ↦ ?_⟩
  · unfold ofFields
    rw [bind_of_eq_ok (readFields_fieldsNamed hfrom.isRead name)]
    exact bind_of_eq_ok hvalidate
  · have hresolved : resolvedOutputName { o with outputName := name } = .ok name := if_pos hgiven
    rw [toFields, if_neg hempty, bind_of_eq_ok hresolved]
    rfl
  · exact accepts_fieldsNamed haccepts hfrom hvalid
      (accepts_resolvedOutputName haccepts hfrom hname)

/-- A configuration of one image over the whole globe. -/
def globeConfig : Fields :=
  [("inputs", .arr [.str "scenes//a.tif"]), ("profile", .str "gmap"),
    ("georeference", .obj [("global", .bool true),
      ("projection", .obj [("type", .str "mercator"), ("lat", .int 0), ("lon", .int 0)])])]

/-- The data holds the path without the repeated slash, the name that is made from it, and edges in
place of the wish for the globe. -/
theorem data_reads_back_globe :
    ∃ o data, ofFields globeConfig = .ok o ∧ o.toFields = .ok data ∧
      data.getD "inputs" = .arr [.str "scenes/a.tif"] ∧
      data.getD "output_name" = .str "scenes/a" ∧
      o.georeference.manualBounds = some ManualBounds.globe ∧
      ofFields data = .ok { o with outputName := .str "scenes/a" } ∧
      ({ o with outputName := .str "scenes/a" } : MosaicOptions).toFields = .ok data ∧
      mosaicConfig.Accepts (.obj globeConfig) ∧ mosaicConfig.Accepts (.obj data) := by
  have hfields : ofFields globeConfig = .ok {
      inputs := [⟨"", ["scenes", "a.tif"]⟩]
      profile := .gmap
      georeference := {
        projection := some { kind := .mercator, lat := .int 0, lon := .int 0 }
        manualBounds := some ManualBounds.globe
        nudgeX := 0.0
        nudgeY := 0.0 }
      pixels := { scale := 1.0, offset := 0.0 } } := by
    rfl
  have haccepts : mosaicConfig.Accepts (.obj globeConfig) := by rfl
  obtain ⟨name, hname, hread, hdata, hvalid⟩ := data_reads_back hfields rfl
  cases hname
  exact ⟨_, _, hfields, rfl, rfl, rfl, rfl, hread, hdata, haccepts, hvalid haccepts⟩

end MosaicOptions

end QuadMosaic
