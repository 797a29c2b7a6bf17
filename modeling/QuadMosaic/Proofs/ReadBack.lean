import QuadMosaic.Options.FromJson
import QuadMosaic.Proofs.Numbers
import QuadMosaic.Proofs.Paths
import QuadMosaic.Proofs.Steps

/-!
# Options read back from their data

For each group of options there is what reading makes of it (`IsRead`), and for options of that form
reading undoes writing.  A member that is left out because it is null is read as null again; a
radius and a scale are doubles already, a zone an integer, and the edges of the globe are written as
any others, so that the wish for the globe need not be.
-/

namespace QuadMosaic

/-! ## Names -/

theorem Profile.parse_name (p : Profile) : Profile.parse (.str p.name) = .ok p := by
  cases p <;> rfl

theorem DatumOverride.parse_name (d : DatumOverride) :
    DatumOverride.parse (.str d.name) = .ok d := by
  cases d <;> rfl

theorem ProjectionKind.parse_name (k : ProjectionKind) :
    ProjectionKind.parse (.str k.name) = .ok k := by
  cases k <;> rfl

theorem ProjectionKind.name_ne_none (k : ProjectionKind) : k.name ≠ "none" := by
  cases k <;> decide

theorem Json.toInt?_ofOption (n : Option Int) : (Json.ofOption .int n).toInt? = .ok n := by
  cases n <;> rfl

/-! ## Projections -/

namespace ProjectionSpec

/-- What a projection has of the members that it was read from. -/
structure ReadFrom (spec : ProjectionSpec) (fields : Fields) : Prop where
  kind : ProjectionKind.parse (fields.getD "type") = .ok spec.kind
  lat : spec.lat = fields.getD "lat"
  lon : spec.lon = fields.getD "lon"
  scale : ∃ scale, (fields.getOr "scale" (.real 1.0)).toReal = .ok scale ∧ spec.scale = .real scale
  p1 : spec.p1 = fields.getD "p1"
  p2 : spec.p2 = fields.getD "p2"
  utmZone : ∃ zone, (fields.getD "utm_zone").toInt? = .ok zone ∧
    spec.utmZone = Json.ofOption .int zone

/-- No projection is read where none is named, and otherwise one with what is found there. -/
theorem cases_of_ofJson {value : Json} {spec? : Option ProjectionSpec}
    (h : ofJson value = .ok spec?) : ∃ fields, value.toMembers = .ok fields ∧
      ((spec? = none ∧ (fields.getD "type" = .null ∨ fields.getD "type" = .str "none")) ∨
        ∃ spec, spec? = some spec ∧ spec.ReadFrom fields) := by
  unfold ofJson at h
  obtain ⟨fields, hfields, h⟩ := exists_of_bind_eq_ok h
  refine ⟨fields, hfields, ?_⟩
  split at h
  case h_1 htype =>
    cases h
    exact .inl ⟨rfl, .inl htype⟩
  case h_2 htype =>
    cases h
    exact .inl ⟨rfl, .inr htype⟩
  case h_3 =>
    obtain ⟨kind, hkind, h⟩ := exists_of_bind_eq_ok h
    obtain ⟨scale, hscale, h⟩ := exists_of_bind_eq_ok h
    obtain ⟨zone, hzone, h⟩ := exists_of_bind_eq_ok h
    cases h
    exact .inr ⟨_, rfl, hkind, rfl, rfl, ⟨scale, hscale, rfl⟩, rfl, rfl, zone, hzone, rfl⟩

theorem readFrom_of_ofJson {value : Json} {spec : ProjectionSpec}
    (h : ofJson value = .ok (some spec)) :
    ∃ fields, value.toMembers = .ok fields ∧ spec.ReadFrom fields := by
  obtain ⟨fields, hfields, ⟨⟨⟩, -⟩ | ⟨_, ⟨⟩, hread⟩⟩ := cases_of_ofJson h
  exact ⟨fields, hfields, hread⟩

/-- A projection as reading makes it. -/
def IsRead (spec : ProjectionSpec) : Prop :=
  (∃ scale, spec.scale = .real scale) ∧ ∃ zone, spec.utmZone = Json.ofOption .int zone

theorem isRead_of_ofJson {value : Json} {spec : ProjectionSpec}
    (h : ofJson value = .ok (some spec)) : spec.IsRead := by
  obtain ⟨fields, -, hread⟩ := readFrom_of_ofJson h
  obtain ⟨scale, -, hscale⟩ := hread.scale
  obtain ⟨zone, -, hzone⟩ := hread.utmZone
  exact ⟨⟨scale, hscale⟩, zone, hzone⟩

theorem keys_toFields_nodup (spec : ProjectionSpec) : (Fields.keys spec.toFields).Nodup := by
  change ["type", "lat", "lon", "scale", "p1", "p2", "utm_zone"].Nodup
  decide

theorem ofJson_toFields {spec : ProjectionSpec} (h : spec.IsRead) :
    ofJson (.obj spec.toFields.dropNulls) = .ok (some spec) := by
  obtain ⟨⟨scale, hscale⟩, zone, hzone⟩ := h
  have hgetD := Fields.getD_dropNulls spec.keys_toFields_nodup
  have hget? := Fields.get?_dropNulls spec.keys_toFields_nodup "scale"
  generalize spec.toFields.dropNulls = fields at hgetD hget? ⊢
  have htype : fields.getD "type" = .str spec.kind.name := hgetD "type"
  have hreal : (fields.getOr "scale" (.real 1.0)).toReal = .ok scale := by
    rw [Fields.getOr, hget?]
    change (((some spec.scale).filter _).getD _).toReal = _
    rw [hscale]
    rfl
  have hint : (fields.getD "utm_zone").toInt? = .ok zone := by
    rw [hgetD]
    change spec.utmZone.toInt? = _
    rw [hzone, Json.toInt?_ofOption]
  have hmembers : (Json.obj fields).toMembers = .ok fields := rfl
  unfold ofJson
  rw [bind_of_eq_ok hmembers, htype]
  split
  case h_1 heq => cases heq
  case h_2 heq => exact absurd (Json.str.inj heq) spec.kind.name_ne_none
  case h_3 =>
    rw [ProjectionKind.parse_name, hreal, hint, hgetD, hgetD, hgetD, hgetD]
    obtain ⟨kind, lat, lon, _, p1, p2, _⟩ := spec
    subst hscale hzone
    rfl

end ProjectionSpec

/-! ## The option groups -/

theorem ManualBounds.ofJson_toJson (b : ManualBounds Float) :
    ManualBounds.ofJson b.toJson false = .ok (some b) := by
  rfl

/-- What pixel options have of the members that they were read from. -/
structure PixelOptions.ReadFrom (o : PixelOptions Float) (fields : Fields) : Prop where
  nodata : (fields.getD "nodata").toReal? = .ok o.nodata
  scale : (fields.getOr "pixel_scale" (.real 1.0)).toReal = .ok o.scale
  offset : (fields.getOr "pixel_offset" (.real 0.0)).toReal = .ok o.offset
  normalize : o.normalize = (fields.getD "normalize").isGiven

theorem PixelOptions.readFrom_of_ofJson {value : Json} {o : PixelOptions Float}
    (h : ofJson value = .ok o) : ∃ fields, value.toMembers = .ok fields ∧ o.ReadFrom fields := by
  unfold ofJson at h
  obtain ⟨fields, hfields, h⟩ := exists_of_bind_eq_ok h
  obtain ⟨nodata, hnodata, h⟩ := exists_of_bind_eq_ok h
  obtain ⟨scale, hscale, h⟩ := exists_of_bind_eq_ok h
  obtain ⟨offset, hoffset, h⟩ := exists_of_bind_eq_ok h
  cases h
  exact ⟨fields, hfields, hnodata, hscale, hoffset, rfl⟩

theorem PixelOptions.ofJson_toFields (o : PixelOptions Float) :
    PixelOptions.ofJson (.obj o.toFields) = .ok o := by
  obtain ⟨nodata, scale, offset, normalize⟩ := o
  cases nodata <;> rfl

namespace GeoreferenceOptions

/-- What georeference options have of the members that they were read from. -/
structure ReadFrom (o : GeoreferenceOptions Float) (fields : Fields) : Prop where
  datum : DatumOverride.parse (fields.getD "datum") = .ok o.datum
  sphereRadius : ∃ radius, (fields.getD "sphere_radius").toReal? = .ok radius ∧
    o.sphereRadius = Option.map .real radius
  projection : ProjectionSpec.ofJson (fields.getD "projection") = .ok o.projection
  manualBounds : ManualBounds.ofJson (fields.getD "bounds") (fields.getD "global").isGiven =
    .ok o.manualBounds
  nudgeX : (fields.getOr "nudge_x" (.real 0.0)).toReal = .ok o.nudgeX
  nudgeY : (fields.getOr "nudge_y" (.real 0.0)).toReal = .ok o.nudgeY

theorem readFrom_of_ofJson {value : Json} {o : GeoreferenceOptions Float}
    (h : ofJson value = .ok o) : ∃ fields, value.toMembers = .ok fields ∧ o.ReadFrom fields := by
  unfold ofJson at h
  obtain ⟨fields, hfields, h⟩ := exists_of_bind_eq_ok h
  obtain ⟨datum, hdatum, h⟩ := exists_of_bind_eq_ok h
  obtain ⟨radius, hradius, h⟩ := exists_of_bind_eq_ok h
  obtain ⟨projection, hprojection, h⟩ := exists_of_bind_eq_ok h
  obtain ⟨bounds, hbounds, h⟩ := exists_of_bind_eq_ok h
  obtain ⟨nudgeX, hx, h⟩ := exists_of_bind_eq_ok h
  obtain ⟨nudgeY, hy, h⟩ := exists_of_bind_eq_ok h
  cases h
  exact ⟨fields, hfields, hdatum, ⟨radius, hradius, rfl⟩, hprojection, hbounds, hx, hy⟩

/-- Georeference options as reading makes them. -/
structure IsRead (o : GeoreferenceOptions Float) : Prop where
  sphereRadius : ∃ radius, o.sphereRadius = Option.map .real radius
  projection : ∀ spec ∈ o.projection, spec.IsRead

theorem isRead_of_ofJson {value : Json} {o : GeoreferenceOptions Float}
    (h : ofJson value = .ok o) : o.IsRead := by
  obtain ⟨fields, -, hread⟩ := readFrom_of_ofJson h
  obtain ⟨radius, -, hradius⟩ := hread.sphereRadius
  refine ⟨⟨radius, hradius⟩, fun spec hspec ↦ ?_⟩
  have hprojection := hread.projection
  rw [Option.mem_def.1 hspec] at hprojection
  exact ProjectionSpec.isRead_of_ofJson hprojection

theorem getD_toFields (o : GeoreferenceOptions Float) :
    o.toFields.getD "sphere_radius" = Json.ofOption Quantity.toJson o.sphereRadius ∧
      o.toFields.getD "projection" =
        Json.ofOption (fun spec ↦ .obj (Fields.dropNulls spec.toFields)) o.projection ∧
      o.toFields.getD "bounds" = Json.ofOption ManualBounds.toJson o.manualBounds ∧
      o.toFields.getD "global" = .null := by
  simp [toFields, Fields.getD, Fields.get?_append, Fields.get?_cons, Fields.get?_unlessNull_of_ne]

theorem ofJson_toFields {o : GeoreferenceOptions Float} (h : o.IsRead) :
    ofJson (.obj o.toFields) = .ok o := by
  obtain ⟨radius, hradius⟩ := h.sphereRadius
  obtain ⟨hsphere, hprojection, hbounds, hglobal⟩ := o.getD_toFields
  have hdatum : DatumOverride.parse (o.toFields.getD "datum") = .ok o.datum := o.datum.parse_name
  have hsphere : (o.toFields.getD "sphere_radius").toReal? = .ok radius := by
    rw [hsphere, hradius]
    cases radius <;> rfl
  have hprojection : ProjectionSpec.ofJson (o.toFields.getD "projection") = .ok o.projection := by
    rw [hprojection]
    cases hspec : o.projection with
    | none => rfl
    | some spec => exact ProjectionSpec.ofJson_toFields (h.projection spec hspec)
  have hbounds : ManualBounds.ofJson (o.toFields.getD "bounds") (o.toFields.getD "global").isGiven =
      .ok o.manualBounds := by
    rw [hbounds, hglobal]
    cases o.manualBounds with
    | none => rfl
    | some b => exact b.ofJson_toJson
  have hx : (o.toFields.getOr "nudge_x" (.real 0.0)).toReal = .ok o.nudgeX := rfl
  have hy : (o.toFields.getOr "nudge_y" (.real 0.0)).toReal = .ok o.nudgeY := rfl
  have hmembers : (Json.obj o.toFields).toMembers = .ok o.toFields := rfl
  unfold ofJson
  rw [bind_of_eq_ok hmembers, bind_of_eq_ok hdatum, bind_of_eq_ok hsphere,
    bind_of_eq_ok hprojection, bind_of_eq_ok hbounds, bind_of_eq_ok hx, bind_of_eq_ok hy,
    ← hradius]
  rfl

end GeoreferenceOptions

/-! ## All options -/

namespace MosaicOptions

/-- Options as reading makes them. -/
structure IsRead (o : MosaicOptions) : Prop where
  inputs : ∀ p ∈ o.inputs, p.IsClean
  georeference : o.georeference.IsRead

/-- What the options have of the members that they were read from. -/
structure ReadFrom (o : MosaicOptions) (fields : Fields) : Prop where
  inputs : inputsOf (fields.getD "inputs") = .ok o.inputs
  outputName : o.outputName = fields.getD "output_name"
  profile : Profile.parse (fields.getOr "profile" (.str "kml")) = .ok o.profile
  georeference : GeoreferenceOptions.ofJson (fields.getD "georeference") = .ok o.georeference
  pixels : PixelOptions.ofJson (fields.getD "pixels") = .ok o.pixels
  aspectRatio : (fields.getOr "aspect_ratio" (.int 1)).toInt = .ok o.aspectRatio
  globalResolution : (fields.getD "global_resolution").toInt? = .ok o.globalResolution
  tileSize : (fields.getOr "tile_size" (.int 256)).toInt = .ok o.tileSize
  fileType : o.fileType = (fields.getOr "file_type" (.str "png")).display
  channelType : o.channelType = fields.getD "channel_type"
  multiband : o.multiband = (fields.getD "multiband").isGiven
  maxLodPixels : (fields.getOr "max_lod_pixels" (.int 1024)).toInt = .ok o.maxLodPixels
  drawOrderOffset : (fields.getOr "draw_order_offset" (.int 0)).toInt = .ok o.drawOrderOffset
  terrain : o.terrain = (fields.getD "terrain").isGiven
  moduleName : o.moduleName = fields.getD "module_name"
  writer : o.writer = (fields.getOr "writer" (.str "plan")).display

theorem readFrom_of_readFields {fields : Fields} {o : MosaicOptions}
    (h : readFields fields = .ok o) : o.ReadFrom fields := by
  unfold readFields at h
  obtain ⟨inputs, hinputs, h⟩ := exists_of_bind_eq_ok h
  obtain ⟨profile, hprofile, h⟩ := exists_of_bind_eq_ok h
  obtain ⟨georeference, hgeoreference, h⟩ := exists_of_bind_eq_ok h
  obtain ⟨pixels, hpixels, h⟩ := exists_of_bind_eq_ok h
  obtain ⟨aspectRatio, haspect, h⟩ := exists_of_bind_eq_ok h
  obtain ⟨globalResolution, hresolution, h⟩ := exists_of_bind_eq_ok h
  obtain ⟨tileSize, htile, h⟩ := exists_of_bind_eq_ok h
  obtain ⟨maxLodPixels, hlod, h⟩ := exists_of_bind_eq_ok h
  obtain ⟨drawOrderOffset, horder, h⟩ := exists_of_bind_eq_ok h
  cases h
  exact ⟨hinputs, rfl, hprofile, hgeoreference, hpixels, haspect, hresolution, htile, rfl, rfl, rfl,
    hlod, horder, rfl, rfl, rfl⟩

theorem isClean_of_inputsOf {value : Json} {inputs : List Path} (h : inputsOf value = .ok inputs) :
    ∀ p ∈ inputs, p.IsClean := by
  intro p hp
  unfold inputsOf at h
  split at h
  · cases h
    cases hp
  · split at h
    · cases h
      obtain rfl := List.mem_singleton.1 hp
      exact Path.ofString_isClean _
    · obtain ⟨item, -, hitem⟩ := exists_of_mem_mapM h hp
      cases item <;> cases hitem
      exact Path.ofString_isClean _
    · cases h
      obtain ⟨key, -, rfl⟩ := List.mem_map.1 hp
      exact Path.ofString_isClean key
    · cases h

theorem inputsOf_ofList {inputs : List Path} (h : ∀ p ∈ inputs, p.IsClean) :
    inputsOf (Json.ofList (fun p ↦ .str p.toString) inputs) = .ok inputs := by
  cases inputs with
  | nil => rfl
  | cons p inputs =>
    exact mapM_map_eq_ok fun q hq ↦ congrArg Except.ok (h q hq).ofString_toString

theorem ReadFrom.isRead {o : MosaicOptions} {fields : Fields} (h : o.ReadFrom fields) :
    o.IsRead where
  inputs := isClean_of_inputsOf h.inputs
  georeference := GeoreferenceOptions.isRead_of_ofJson h.georeference

theorem getD_fieldsNamed (o : MosaicOptions) (name : Json) :
    (o.fieldsNamed name).getD "global_resolution" = Json.ofOption .int o.globalResolution ∧
      (o.fieldsNamed name).getD "channel_type" = o.channelType ∧
      (o.fieldsNamed name).getD "module_name" = o.moduleName := by
  simp [fieldsNamed, Fields.getD, Fields.get?_append, Fields.get?_cons,
    Fields.get?_unlessNull_of_ne]

theorem readFields_fieldsNamed {o : MosaicOptions} (h : o.IsRead) (name : Json) :
    readFields (o.fieldsNamed name) = .ok { o with outputName := name } := by
  obtain ⟨hresolution, hchannel, hmodule⟩ := o.getD_fieldsNamed name
  have hinputs : inputsOf ((o.fieldsNamed name).getD "inputs") = .ok o.inputs :=
    inputsOf_ofList h.inputs
  have hprofile : Profile.parse ((o.fieldsNamed name).getOr "profile" (.str "kml")) =
      .ok o.profile :=
    o.profile.parse_name
  have hgeoreference : GeoreferenceOptions.ofJson ((o.fieldsNamed name).getD "georeference") =
      .ok o.georeference :=
    GeoreferenceOptions.ofJson_toFields h.georeference
  have hpixels : PixelOptions.ofJson ((o.fieldsNamed name).getD "pixels") = .ok o.pixels :=
    o.pixels.ofJson_toFields
  have haspect : ((o.fieldsNamed name).getOr "aspect_ratio" (.int 1)).toInt = .ok o.aspectRatio :=
    rfl
  have hresolution : ((o.fieldsNamed name).getD "global_resolution").toInt? =
      .ok o.globalResolution := by
    rw [hresolution, Json.toInt?_ofOption]
  have htile : ((o.fieldsNamed name).getOr "tile_size" (.int 256)).toInt = .ok o.tileSize := rfl
  have hlod : ((o.fieldsNamed name).getOr "max_lod_pixels" (.int 1024)).toInt =
      .ok o.maxLodPixels :=
    rfl
  have horder : ((o.fieldsNamed name).getOr "draw_order_offset" (.int 0)).toInt =
      .ok o.drawOrderOffset :=
    rfl
  unfold readFields
  rw [bind_of_eq_ok hinputs, bind_of_eq_ok hprofile, bind_of_eq_ok hgeoreference,
    bind_of_eq_ok hpixels, bind_of_eq_ok haspect, bind_of_eq_ok hresolution, bind_of_eq_ok htile,
    bind_of_eq_ok hlod, bind_of_eq_ok horder, hchannel, hmodule]
  rfl

end MosaicOptions

end QuadMosaic
