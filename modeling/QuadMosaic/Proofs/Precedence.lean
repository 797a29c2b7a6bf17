import QuadMosaic.CommandLine.MosaicFlags
import QuadMosaic.Proofs.Overlay
import QuadMosaic.Proofs.ReadBack

/-!
# Flags over a configuration file

Options come from the flags of the command line laid over a configuration file.  Main statement:
`MosaicFlags.prevail_over_file`, an option that a flag names has the value of the flag and any other
the one of the file, whatever the file holds.  A projection is one option: the flag that names it
replaces the one of the file, numbers included.  In two places flags do not prevail
(`MosaicFlags.file_prevails_over_flags`): edges that flags give do not undo the wish of a file for the
globe, and numbers of a projection count only beside the flag that names it.
-/

namespace QuadMosaic

open Fields

namespace MosaicFlags

/-! ## The members that flags stand for -/

section

variable {α : Type}

@[simp] theorem get?_given (k : String) (f : α → Json) (flag : Option (FlagValue α))
    (key : String) :
    get? (given k f flag) key = if k = key then flag.map (FlagValue.toJson f) else none := by
  cases flag <;> simp [given, get?_cons]

@[simp] theorem get?_switch (k : String) (on : Bool) (key : String) :
    get? (switch k on) key = if k = key ∧ on then some (.bool true) else none := by
  cases on <;> simp [switch, get?_cons]

@[simp] theorem get?_group (k : String) (ms : Fields) (key : String) :
    get? (group k ms) key = if k = key ∧ ms ≠ [] then some (.obj ms) else none := by
  cases ms <;> simp [group, get?_cons]

@[simp] theorem get?_inputFields (flags : MosaicFlags) (key : String) :
    get? flags.inputFields key =
      if "inputs" = key ∧ flags.inputs ≠ [] then some (Json.ofList .str flags.inputs) else none := by
  unfold inputFields
  cases flags.inputs <;> simp [get?_cons]

theorem given_eq_nil_iff {k : String} {f : α → Json} {flag : Option (FlagValue α)} :
    given k f flag = [] ↔ flag = none := by
  cases flag <;> simp [given]

theorem keys_given_sublist (k : String) (f : α → Json) (flag : Option (FlagValue α)) :
    (keys (given k f flag)).Sublist [k] := by
  cases flag <;> simp [given, keys]

theorem keys_switch_sublist (k : String) (on : Bool) : (keys (switch k on)).Sublist [k] := by
  cases on <;> simp [switch, keys]

theorem keys_group_sublist (k : String) (ms : Fields) : (keys (group k ms)).Sublist [k] := by
  cases ms <;> simp [group, keys]

theorem keys_inputFields_sublist (flags : MosaicFlags) :
    (keys flags.inputFields).Sublist ["inputs"] := by
  unfold inputFields
  split <;> simp [keys]

end

variable (flags : MosaicFlags)

theorem keys_toFields_nodup : (keys flags.toFields).Nodup := by
  have h : (keys flags.toFields).Sublist ["inputs", "output_name", "profile", "aspect_ratio",
      "global_resolution", "tile_size", "file_type", "channel_type", "max_lod_pixels",
      "draw_order_offset", "module_name", "writer", "georeference", "pixels", "multiband",
      "terrain"] := by
    simp only [toFields, keys_append]
    exact (keys_inputFields_sublist flags).append (keys_given_sublist ..)
      |>.append (keys_given_sublist ..) |>.append (keys_given_sublist ..)
      |>.append (keys_given_sublist ..) |>.append (keys_given_sublist ..)
      |>.append (keys_given_sublist ..) |>.append (keys_given_sublist ..)
      |>.append (keys_given_sublist ..) |>.append (keys_given_sublist ..)
      |>.append (keys_given_sublist ..) |>.append (keys_given_sublist ..)
      |>.append (keys_group_sublist ..) |>.append (keys_group_sublist ..)
      |>.append (keys_switch_sublist ..) |>.append (keys_switch_sublist ..)
  exact List.Nodup.sublist h (by decide)

theorem keys_georeferenceFields_nodup : (keys flags.georeferenceFields).Nodup := by
  have h : (keys flags.georeferenceFields).Sublist
      ["datum", "sphere_radius", "nudge_x", "nudge_y", "projection", "bounds", "global"] := by
    simp only [georeferenceFields, keys_append]
    exact (keys_given_sublist ..).append (keys_given_sublist ..)
      |>.append (keys_given_sublist ..) |>.append (keys_given_sublist ..)
      |>.append (keys_group_sublist ..) |>.append (keys_group_sublist ..)
      |>.append (keys_switch_sublist ..)
  exact List.Nodup.sublist h (by decide)

theorem keys_pixelFields_nodup : (keys flags.pixelFields).Nodup := by
  have h : (keys flags.pixelFields).Sublist
      ["nodata", "pixel_scale", "pixel_offset", "normalize"] := by
    simp only [pixelFields, keys_append]
    exact (keys_given_sublist ..).append (keys_given_sublist ..)
      |>.append (keys_given_sublist ..) |>.append (keys_switch_sublist ..)
  exact List.Nodup.sublist h (by decide)

/-! ## How options come about -/

/-- Some edge is given. -/
def NamesEdge : Prop :=
  flags.north.isSome ∨ flags.south.isSome ∨ flags.east.isSome ∨ flags.west.isSome

end MosaicFlags

/-- How an option is settled: by its flag when that is given, and by the file otherwise.  Either
value is read in the same way. -/
structure Settled {α β : Type} (read : Json → Except Fault β) (value : α → Json)
    (flag : Option (FlagValue α)) (file : Json) (option : β) : Prop where
  named : ∀ v, flag = some v → read (v.toJson value) = .ok option
  unnamed : flag = none → read file = .ok option

theorem settled_of_get? {α β : Type} {read : Json → Except Fault β} {value : α → Json}
    {flag : Option (FlagValue α)} {file : Option Json} {fields : Fields} {key : String}
    {default : Json} {option : β}
    (hget : fields.get? key = (flag.map (FlagValue.toJson value)).or file)
    (hread : read (fields.getOr key default) = .ok option) :
    Settled read value flag (file.getD default) option := by
  rw [Fields.getOr, hget] at hread
  cases flag with
  | none => exact ⟨by simp, fun _ ↦ hread⟩
  | some v =>
    refine ⟨?_, by simp⟩
    rintro _ ⟨⟩
    exact hread

namespace MosaicFlags

/-- The projection that flags name has the numbers that flags give, and the defaults for others:
what the file says of its own projection does not count. -/
structure Shape (flags : MosaicFlags) (kind : String) (spec : ProjectionSpec) : Prop where
  kind : ProjectionKind.parse (.str kind) = .ok spec.kind
  lat : Settled .ok .real flags.projLat .null spec.lat
  lon : Settled .ok .real flags.projLon .null spec.lon
  scale : Settled (fun v ↦ v.toReal.map .real) .real flags.projScale (.real 1.0) spec.scale
  p1 : Settled .ok .real flags.stdParallel1 .null spec.p1
  p2 : Settled .ok .real flags.stdParallel2 .null spec.p2
  utmZone : Settled (fun v ↦ v.toInt?.map (Json.ofOption .int)) .int flags.utmZone .null
    spec.utmZone

/-- Flags prevail over the georeference options of a file. -/
structure PrevailInGeoreference (flags : MosaicFlags) (file : Fields)
    (o : GeoreferenceOptions Float) : Prop where
  datum : Settled DatumOverride.parse .str flags.datum (file.getD "datum") o.datum
  sphereRadius : Settled (fun v ↦ v.toReal?.map (Option.map .real)) .real flags.sphereRadius
    (file.getD "sphere_radius") o.sphereRadius
  nudgeX : Settled Json.toReal .real flags.nudgeX (file.getOr "nudge_x" (.real 0.0)) o.nudgeX
  nudgeY : Settled Json.toReal .real flags.nudgeY (file.getOr "nudge_y" (.real 0.0)) o.nudgeY
  globe : flags.wholeGlobe = true → o.manualBounds = some .globe
  /-- Edges that are given are all given, and are the bounds unless the globe is asked for. -/
  edges : flags.NamesEdge → flags.wholeGlobe = false → (file.getD "global").isGiven = false →
    ∃ n s e w, flags.north = some (.of n) ∧ flags.south = some (.of s) ∧
      flags.east = some (.of e) ∧ flags.west = some (.of w) ∧ o.manualBounds = some ⟨n, s, e, w⟩
  fileBounds : ¬ flags.NamesEdge → flags.wholeGlobe = false →
    ManualBounds.ofJson (file.getD "bounds") (file.getD "global").isGiven = .ok o.manualBounds
  noProjection : flags.projection = some "none" → o.projection = none
  /-- Numbers that flags give are in force in the projection that a flag names. -/
  projection : ∀ kind, flags.projection = some kind → kind ≠ "none" →
    ∃ spec, o.projection = some spec ∧ flags.Shape kind spec
  fileProjection : flags.projection = none →
    ProjectionSpec.ofJson (file.getD "projection") = .ok o.projection

/-- Flags prevail over the pixel options of a file. -/
structure PrevailInPixels (flags : MosaicFlags) (file : Fields) (o : PixelOptions Float) :
    Prop where
  nodata : Settled Json.toReal? .real flags.nodata (file.getD "nodata") o.nodata
  scale : Settled Json.toReal .real flags.pixelScale (file.getOr "pixel_scale" (.real 1.0)) o.scale
  offset : Settled Json.toReal .real flags.pixelOffset (file.getOr "pixel_offset" (.real 0.0))
    o.offset
  normalize : o.normalize = (flags.normalize || (file.getD "normalize").isGiven)

/-- Flags prevail over a file: an option that a flag names has the value of the flag, and any other
the one of the file, or its default where the file has none. -/
structure Prevail (flags : MosaicFlags) (file : Fields) (o : MosaicOptions) : Prop where
  inputs : flags.inputs ≠ [] → o.inputs = flags.inputs.map Path.ofString
  fileInputs : flags.inputs = [] → MosaicOptions.inputsOf (file.getD "inputs") = .ok o.inputs
  outputName : Settled .ok .str flags.outputName (file.getD "output_name") o.outputName
  profile : Settled Profile.parse .str flags.mode (file.getOr "profile" (.str "kml")) o.profile
  georeference : flags.PrevailInGeoreference (file.members "georeference") o.georeference
  pixels : flags.PrevailInPixels (file.members "pixels") o.pixels
  aspectRatio : Settled Json.toInt .int flags.aspectRatio (file.getOr "aspect_ratio" (.int 1))
    o.aspectRatio
  globalResolution : Settled Json.toInt? .int flags.globalResolution
    (file.getD "global_resolution") o.globalResolution
  tileSize : Settled Json.toInt .int flags.tileSize (file.getOr "tile_size" (.int 256)) o.tileSize
  fileType : Settled (fun v ↦ .ok v.display) .str flags.fileType
    (file.getOr "file_type" (.str "png")) o.fileType
  channelType : Settled .ok .str flags.channelType (file.getD "channel_type") o.channelType
  multiband : o.multiband = (flags.multiband || (file.getD "multiband").isGiven)
  maxLodPixels : Settled Json.toInt .int flags.maxLodPixels
    (file.getOr "max_lod_pixels" (.int 1024)) o.maxLodPixels
  drawOrderOffset : Settled Json.toInt .int flags.drawOrderOffset
    (file.getOr "draw_order_offset" (.int 0)) o.drawOrderOffset
  terrain : o.terrain = (flags.terrain || (file.getD "terrain").isGiven)
  moduleName : Settled .ok .str flags.moduleName (file.getD "module_name") o.moduleName
  writer : Settled (fun v ↦ .ok v.display) .str flags.writer (file.getOr "writer" (.str "plan"))
    o.writer

/-! ## Options read from flags laid over a file -/

section

variable {flags : MosaicFlags} {file fields : Fields}

/-- A number that is found is the value of its flag. -/
theorem eq_of_toReal {flag : Option (FlagValue Float)} {x : Float}
    (h : ((flag.map (FlagValue.toJson .real)).getD .null).toReal = .ok x) :
    flag = some (.of x) := by
  rcases flag with - | y | - <;> cases h
  rfl

theorem isSome_eq_false_of_null {flag : Option (FlagValue Float)}
    (h : (((flag.map (FlagValue.toJson .real)).getD .null) matches .null) = true) :
    flag.isSome = false := by
  cases flag with
  | none => rfl
  | some v => cases v <;> cases h

theorem edgeFields_eq_nil_iff : flags.edgeFields = [] ↔ ¬ flags.NamesEdge := by
  simp [edgeFields, NamesEdge, given_eq_nil_iff]

theorem getD_edgeFields (flags : MosaicFlags) :
    flags.edgeFields.getD "north" = (flags.north.map (FlagValue.toJson .real)).getD .null ∧
      flags.edgeFields.getD "south" = (flags.south.map (FlagValue.toJson .real)).getD .null ∧
      flags.edgeFields.getD "east" = (flags.east.map (FlagValue.toJson .real)).getD .null ∧
      flags.edgeFields.getD "west" = (flags.west.map (FlagValue.toJson .real)).getD .null := by
  simp [edgeFields, getD, get?_append]

/-- Edges that flags give are bounds only together. -/
theorem exists_edges_of_ofFields {bounds : Option (ManualBounds Float)} (hedge : flags.NamesEdge)
    (h : ManualBounds.ofFields flags.edgeFields = .ok bounds) :
    ∃ n s e w, flags.north = some (.of n) ∧ flags.south = some (.of s) ∧
      flags.east = some (.of e) ∧ flags.west = some (.of w) ∧ bounds = some ⟨n, s, e, w⟩ := by
  obtain ⟨hnorth, hsouth, heast, hwest⟩ := flags.getD_edgeFields
  unfold ManualBounds.ofFields at h
  simp only at h
  split at h
  case isTrue hall =>
    have hnull := List.filter_eq_self.1 hall
    simp only [ManualBounds.keys, List.forall_mem_cons, hnorth, hsouth, heast, hwest] at hnull
    obtain ⟨hn, hs, he, hw, -⟩ := hnull
    rcases hedge with hedge | hedge | hedge | hedge
    · cases (isSome_eq_false_of_null hn).symm.trans hedge
    · cases (isSome_eq_false_of_null hs).symm.trans hedge
    · cases (isSome_eq_false_of_null he).symm.trans hedge
    · cases (isSome_eq_false_of_null hw).symm.trans hedge
  case isFalse =>
    split at h
    · cases h
    · rw [hnorth, hsouth, heast, hwest] at h
      obtain ⟨n, hn, h⟩ := exists_of_bind_eq_ok h
      obtain ⟨s, hs, h⟩ := exists_of_bind_eq_ok h
      obtain ⟨e, he, h⟩ := exists_of_bind_eq_ok h
      obtain ⟨w, hw, h⟩ := exists_of_bind_eq_ok h
      cases h
      exact ⟨n, s, e, w, eq_of_toReal hn, eq_of_toReal hs, eq_of_toReal he, eq_of_toReal hw, rfl⟩

theorem get?_projectionFields {kind : String} (h : flags.projection = some kind) :
    get? flags.projectionFields "type" = some (.str kind) ∧
      get? flags.projectionFields "lat" = flags.projLat.map (FlagValue.toJson .real) ∧
      get? flags.projectionFields "lon" = flags.projLon.map (FlagValue.toJson .real) ∧
      get? flags.projectionFields "scale" = flags.projScale.map (FlagValue.toJson .real) ∧
      get? flags.projectionFields "p1" = flags.stdParallel1.map (FlagValue.toJson .real) ∧
      get? flags.projectionFields "p2" = flags.stdParallel2.map (FlagValue.toJson .real) ∧
      get? flags.projectionFields "utm_zone" = flags.utmZone.map (FlagValue.toJson .int) := by
  simp [projectionFields, h, get?_append, get?_cons]

/-- The projection that flags name, without what a file says of it. -/
theorem shape_of_readFrom {kind : String} {spec : ProjectionSpec}
    (hkind : flags.projection = some kind) (h : spec.ReadFrom flags.projectionFields) :
    flags.Shape kind spec := by
  obtain ⟨htype, hlat, hlon, hscale, hp1, hp2, hzone⟩ := get?_projectionFields hkind
  obtain ⟨scale, hscaleRead, hscaleEq⟩ := h.scale
  obtain ⟨zone, hzoneRead, hzoneEq⟩ := h.utmZone
  have hname := h.kind
  rw [getD, htype] at hname
  exact {
    kind := hname
    lat := settled_of_get? (hlat.trans Option.or_none.symm) (congrArg Except.ok h.lat.symm)
    lon := settled_of_get? (hlon.trans Option.or_none.symm) (congrArg Except.ok h.lon.symm)
    scale := settled_of_get? (hscale.trans Option.or_none.symm)
      (hscaleEq ▸ congrArg (Except.map Json.real) hscaleRead)
    p1 := settled_of_get? (hp1.trans Option.or_none.symm) (congrArg Except.ok h.p1.symm)
    p2 := settled_of_get? (hp2.trans Option.or_none.symm) (congrArg Except.ok h.p2.symm)
    utmZone := settled_of_get? (hzone.trans Option.or_none.symm)
      (hzoneEq ▸ congrArg (Except.map (Json.ofOption Json.int)) hzoneRead) }

theorem get?_georeferenceFields (flags : MosaicFlags) :
    get? flags.georeferenceFields "datum" = flags.datum.map (FlagValue.toJson .str) ∧
      get? flags.georeferenceFields "sphere_radius" =
        flags.sphereRadius.map (FlagValue.toJson .real) ∧
      get? flags.georeferenceFields "nudge_x" = flags.nudgeX.map (FlagValue.toJson .real) ∧
      get? flags.georeferenceFields "nudge_y" = flags.nudgeY.map (FlagValue.toJson .real) ∧
      get? flags.georeferenceFields "projection" =
        (if flags.projectionFields ≠ [] then some (.obj flags.projectionFields) else none) ∧
      get? flags.georeferenceFields "bounds" =
        (if flags.edgeFields ≠ [] then some (.obj flags.edgeFields) else none) ∧
      get? flags.georeferenceFields "global" =
        (if flags.wholeGlobe then some (.bool true) else none) := by
  simp [georeferenceFields, get?_append]

theorem projectionFields_of_none (h : flags.projection = none) : flags.projectionFields = [] := by
  rw [projectionFields, h]

theorem projectionFields_ne_nil {kind : String} (h : flags.projection = some kind) :
    flags.projectionFields ≠ [] := by
  simp [projectionFields, h]

/-- What is read of the bounds, from the flags first. -/
theorem cases_of_bounds {bounds : Option (ManualBounds Float)}
    (hget : ∀ key, get? fields key = (get? flags.georeferenceFields key).or (get? file key))
    (h : ManualBounds.ofJson (fields.getD "bounds") (fields.getD "global").isGiven = .ok bounds) :
    (flags.wholeGlobe = true → bounds = some .globe) ∧
      (flags.NamesEdge → flags.wholeGlobe = false → (file.getD "global").isGiven = false →
        ManualBounds.ofFields flags.edgeFields = .ok bounds) ∧
      (¬ flags.NamesEdge → flags.wholeGlobe = false →
        ManualBounds.ofJson (file.getD "bounds") (file.getD "global").isGiven = .ok bounds) := by
  obtain ⟨-, -, -, -, -, hbounds, hglobe⟩ := flags.get?_georeferenceFields
  simp only [getD, hget, hbounds, hglobe] at h
  refine ⟨fun hasked ↦ ?_, fun hedge hasked hfile ↦ ?_, fun hedge hasked ↦ ?_⟩
  · rw [hasked] at h
    exact (Except.ok.inj h).symm
  · have hne : flags.edgeFields ≠ [] := fun hnil ↦ edgeFields_eq_nil_iff.1 hnil hedge
    have hgiven : (Json.obj flags.edgeFields).isGiven = true := by
      simp [Json.isGiven, hne]
    rw [getD] at hfile
    rw [if_pos hne, Option.some_or, Option.getD_some, hasked, if_neg Bool.false_ne_true,
      Option.none_or, hfile] at h
    simp only [ManualBounds.ofJson, hgiven, Bool.not_true, Bool.false_eq_true, if_false] at h
    exact h
  · rw [if_neg (not_not_intro (edgeFields_eq_nil_iff.2 hedge)), hasked,
      if_neg Bool.false_ne_true, Option.none_or, Option.none_or] at h
    exact h

/-- What is read of the projection, from the flags first. -/
theorem cases_of_projection {spec? : Option ProjectionSpec}
    (hget : ∀ key, get? fields key = (get? flags.georeferenceFields key).or (get? file key))
    (h : ProjectionSpec.ofJson (fields.getD "projection") = .ok spec?) :
    (flags.projection = none → ProjectionSpec.ofJson (file.getD "projection") = .ok spec?) ∧
      ∀ kind, flags.projection = some kind →
        (kind = "none" ∧ spec? = none) ∨ (kind ≠ "none" ∧ ∃ spec, spec? = some spec ∧
          flags.Shape kind spec) := by
  obtain ⟨-, -, -, -, hprojection, -, -⟩ := flags.get?_georeferenceFields
  rw [getD, hget, hprojection] at h
  refine ⟨fun hnone ↦ ?_, fun kind hkind ↦ ?_⟩
  · rw [if_neg (not_not_intro (projectionFields_of_none hnone)), Option.none_or] at h
    exact h
  · rw [if_pos (projectionFields_ne_nil hkind), Option.some_or, Option.getD_some] at h
    obtain ⟨-, ⟨⟩, hcases⟩ := ProjectionSpec.cases_of_ofJson h
    have htype : flags.projectionFields.getD "type" = .str kind := by
      rw [getD, (get?_projectionFields hkind).1]
      rfl
    rcases hcases with ⟨hnone, hname⟩ | ⟨spec, hspec, hread⟩
    · rw [htype] at hname
      rcases hname with ⟨⟨⟩⟩ | hname
      exact .inl ⟨Json.str.inj hname, hnone⟩
    · refine .inr ⟨?_, spec, hspec, shape_of_readFrom hkind hread⟩
      rintro rfl
      cases htype ▸ hread.kind

theorem prevailInGeoreference_of_readFrom {o : GeoreferenceOptions Float}
    (hget : ∀ key, get? fields key = (get? flags.georeferenceFields key).or (get? file key))
    (h : o.ReadFrom fields) : flags.PrevailInGeoreference file o := by
  obtain ⟨hdatum, hradius, hx, hy, -, -, -⟩ := flags.get?_georeferenceFields
  obtain ⟨radius, hradiusRead, hradiusEq⟩ := h.sphereRadius
  obtain ⟨hglobe, hedges, hfileBounds⟩ := cases_of_bounds hget h.manualBounds
  obtain ⟨hfileProjection, hprojection⟩ := cases_of_projection hget h.projection
  exact {
    datum := settled_of_get? (hdatum ▸ hget "datum") h.datum
    sphereRadius := settled_of_get? (hradius ▸ hget "sphere_radius")
      (hradiusEq ▸ congrArg (Except.map (Option.map Quantity.real)) hradiusRead)
    nudgeX := settled_of_get? (hx ▸ hget "nudge_x") h.nudgeX
    nudgeY := settled_of_get? (hy ▸ hget "nudge_y") h.nudgeY
    globe := hglobe
    edges := fun hedge hasked hfile ↦ exists_edges_of_ofFields hedge (hedges hedge hasked hfile)
    fileBounds := hfileBounds
    noProjection := fun hnone ↦ ((hprojection _ hnone).resolve_right fun h ↦ h.1 rfl).2
    projection := fun kind hkind hne ↦ ((hprojection _ hkind).resolve_left fun h ↦ hne h.1).2
    fileProjection := hfileProjection }

theorem get?_pixelFields (flags : MosaicFlags) :
    get? flags.pixelFields "nodata" = flags.nodata.map (FlagValue.toJson .real) ∧
      get? flags.pixelFields "pixel_scale" = flags.pixelScale.map (FlagValue.toJson .real) ∧
      get? flags.pixelFields "pixel_offset" = flags.pixelOffset.map (FlagValue.toJson .real) ∧
      get? flags.pixelFields "normalize" = (if flags.normalize then some (.bool true) else none) := by
  simp [pixelFields, get?_append]

/-- A switch that is on counts as given, and one that is off leaves it to the file. -/
theorem isGiven_of_get? {on : Bool} {key : String}
    (hget : get? fields key = (if on then some (.bool true) else none).or (get? file key)) :
    (fields.getD key).isGiven = (on || (file.getD key).isGiven) := by
  rw [getD, hget]
  cases on <;> rfl

theorem prevailInPixels_of_readFrom {o : PixelOptions Float}
    (hget : ∀ key, get? fields key = (get? flags.pixelFields key).or (get? file key))
    (h : o.ReadFrom fields) : flags.PrevailInPixels file o := by
  obtain ⟨hnodata, hscale, hoffset, hnormalize⟩ := flags.get?_pixelFields
  exact {
    nodata := settled_of_get? (hnodata ▸ hget "nodata") h.nodata
    scale := settled_of_get? (hscale ▸ hget "pixel_scale") h.scale
    offset := settled_of_get? (hoffset ▸ hget "pixel_offset") h.offset
    normalize := h.normalize.trans (isGiven_of_get? (hnormalize ▸ hget "normalize")) }

theorem get?_toFields (flags : MosaicFlags) :
    get? flags.toFields "inputs" =
        (if flags.inputs ≠ [] then some (Json.ofList .str flags.inputs) else none) ∧
      get? flags.toFields "output_name" = flags.outputName.map (FlagValue.toJson .str) ∧
      get? flags.toFields "profile" = flags.mode.map (FlagValue.toJson .str) ∧
      get? flags.toFields "aspect_ratio" = flags.aspectRatio.map (FlagValue.toJson .int) ∧
      get? flags.toFields "global_resolution" =
        flags.globalResolution.map (FlagValue.toJson .int) ∧
      get? flags.toFields "tile_size" = flags.tileSize.map (FlagValue.toJson .int) ∧
      get? flags.toFields "file_type" = flags.fileType.map (FlagValue.toJson .str) ∧
      get? flags.toFields "channel_type" = flags.channelType.map (FlagValue.toJson .str) ∧
      get? flags.toFields "max_lod_pixels" = flags.maxLodPixels.map (FlagValue.toJson .int) ∧
      get? flags.toFields "draw_order_offset" =
        flags.drawOrderOffset.map (FlagValue.toJson .int) ∧
      get? flags.toFields "module_name" = flags.moduleName.map (FlagValue.toJson .str) ∧
      get? flags.toFields "writer" = flags.writer.map (FlagValue.toJson .str) ∧
      get? flags.toFields "multiband" = (if flags.multiband then some (.bool true) else none) ∧
      get? flags.toFields "terrain" = (if flags.terrain then some (.bool true) else none) := by
  simp [toFields, get?_append]

theorem get?_toFields_groups (flags : MosaicFlags) :
    get? flags.toFields "georeference" =
        (if flags.georeferenceFields ≠ [] then some (.obj flags.georeferenceFields) else none) ∧
      get? flags.toFields "pixels" =
        (if flags.pixelFields ≠ [] then some (.obj flags.pixelFields) else none) := by
  simp [toFields, get?_append]

/-- A group that flags stand for has the members that they stand for. -/
theorem members_of_get?_group {group : String} {ms : Fields}
    (h : get? fields group = if ms ≠ [] then some (.obj ms) else none) :
    members fields group = ms := by
  by_cases hms : ms = []
  · rw [if_neg (not_not_intro hms)] at h
    rw [members_of_get?_eq_none h, hms]
  · rw [if_pos hms] at h
    exact members_of_get?_obj h

/-- A member of a group is the one that flags stand for, or the one in the file. -/
theorem get?_members_of_merge {group : String} {ms : Fields} (hgroup : groups.contains group = true)
    (hflags : get? flags.toFields group = if ms ≠ [] then some (.obj ms) else none)
    (hms : (keys ms).Nodup) (h : merge file flags.toFields = .ok fields) (key : String) :
    get? (members fields group) key = (get? ms key).or (get? (members file group) key) := by
  rw [get?_members_merge flags.keys_toFields_nodup h hgroup, members_of_get?_group hflags]
  intro value hvalue
  rw [hflags] at hvalue
  split at hvalue
  · exact ⟨ms, (Option.some.inj hvalue).symm, hms⟩
  · cases hvalue

theorem inputsOf_ofList_str (names : List String) :
    MosaicOptions.inputsOf (Json.ofList .str names) = .ok (names.map Path.ofString) := by
  cases names with
  | nil => rfl
  | cons name names =>
    change ((name :: names).map Json.str).mapM MosaicOptions.pathOf = _
    rw [List.mapM_map]
    exact List.mapM_pure

/-- Flags laid over a file prevail, option by option. -/
theorem prevail_over_file {options : MosaicOptions}
    (hmerge : merge file flags.toFields = .ok fields)
    (hread : MosaicOptions.ofFields fields = .ok options) : flags.Prevail file options := by
  obtain ⟨_, hread, hvalid⟩ := exists_of_bind_eq_ok hread
  obtain ⟨_, -, ⟨⟩⟩ := exists_of_bind_eq_ok hvalid
  have h := MosaicOptions.readFrom_of_readFields hread
  have hget (key : String) (hkey : groups.contains key = false) :=
    get?_merge flags.keys_toFields_nodup hmerge hkey
  obtain ⟨hinputs, hname, hprofile, haspect, hresolution, htile, htype, hchannel, hlod, horder,
    hmodule, hwriter, hmultiband, hterrain⟩ := flags.get?_toFields
  obtain ⟨hgeoreference, hpixels⟩ := flags.get?_toFields_groups
  obtain ⟨ms, hms, hgeoreferenceRead⟩ := GeoreferenceOptions.readFrom_of_ofJson h.georeference
  obtain rfl := members_eq_of_toMembers hms
  obtain ⟨ps, hps, hpixelsRead⟩ := PixelOptions.readFrom_of_ofJson h.pixels
  obtain rfl := members_eq_of_toMembers hps
  have hinputsRead := h.inputs
  rw [getD, hget "inputs" rfl, hinputs] at hinputsRead
  exact {
    inputs := fun hne ↦ by
      rw [if_pos hne, Option.some_or, Option.getD_some, inputsOf_ofList_str] at hinputsRead
      exact (Except.ok.inj hinputsRead).symm
    fileInputs := fun hnil ↦ by
      rwa [if_neg (not_not_intro hnil), Option.none_or] at hinputsRead
    outputName := settled_of_get? (hname ▸ hget "output_name" rfl)
      (congrArg Except.ok h.outputName.symm)
    profile := settled_of_get? (hprofile ▸ hget "profile" rfl) h.profile
    georeference := prevailInGeoreference_of_readFrom
      (get?_members_of_merge rfl hgeoreference flags.keys_georeferenceFields_nodup hmerge)
      hgeoreferenceRead
    pixels := prevailInPixels_of_readFrom
      (get?_members_of_merge rfl hpixels flags.keys_pixelFields_nodup hmerge) hpixelsRead
    aspectRatio := settled_of_get? (haspect ▸ hget "aspect_ratio" rfl) h.aspectRatio
    globalResolution := settled_of_get? (hresolution ▸ hget "global_resolution" rfl)
      h.globalResolution
    tileSize := settled_of_get? (htile ▸ hget "tile_size" rfl) h.tileSize
    fileType := settled_of_get? (htype ▸ hget "file_type" rfl) (congrArg Except.ok h.fileType.symm)
    channelType := settled_of_get? (hchannel ▸ hget "channel_type" rfl)
      (congrArg Except.ok h.channelType.symm)
    multiband := h.multiband.trans (isGiven_of_get? (hmultiband ▸ hget "multiband" rfl))
    maxLodPixels := settled_of_get? (hlod ▸ hget "max_lod_pixels" rfl) h.maxLodPixels
    drawOrderOffset := settled_of_get? (horder ▸ hget "draw_order_offset" rfl) h.drawOrderOffset
    terrain := h.terrain.trans (isGiven_of_get? (hterrain ▸ hget "terrain" rfl))
    moduleName := settled_of_get? (hmodule ▸ hget "module_name" rfl)
      (congrArg Except.ok h.moduleName.symm)
    writer := settled_of_get? (hwriter ▸ hget "writer" rfl) (congrArg Except.ok h.writer.symm) }

end

/-! ## Flags that meet a file -/

/-- Flags that give the edges of an image and the size of its tiles. -/
def edgeFlags : MosaicFlags where
  tileSize := some (.of 128)
  north := some (.of 10.0)
  south := some (.of 0.0)
  east := some (.of 20.0)
  west := some (.of 0.0)

/-- Edges, and a projection with its centre. -/
def mercatorFlags : MosaicFlags :=
  { edgeFlags with
    projection := some "mercator", projLat := some (.of 5.0), projLon := some (.of 30.0) }

/-- A file about an image of the Moon, which is to be projected. -/
def moonFile : Fields := [
  ("inputs", .arr [.str "a.tif"]),
  ("profile", .str "tms"),
  ("tile_size", .int 512),
  ("georeference", .obj [
    ("datum", .str "lunar"),
    ("projection", .obj [("type", .str "sinusoidal"), ("lon", .int 0)])])]

theorem prevail_over_file_of_mercator :
    ∃ fields options, merge moonFile mercatorFlags.toFields = .ok fields ∧
      MosaicOptions.ofFields fields = .ok options ∧ mercatorFlags.Prevail moonFile options ∧
      options.tileSize = 128 ∧ options.profile = .tms ∧ options.georeference.datum = .lunar ∧
      options.georeference.manualBounds = some ⟨10.0, 0.0, 20.0, 0.0⟩ ∧
      ∃ spec, options.georeference.projection = some spec ∧ spec.kind = .mercator ∧
        spec.lat = .real 5.0 ∧ spec.lon = .real 30.0 :=
  ⟨_, _, rfl, rfl, prevail_over_file rfl rfl, rfl, rfl, rfl, rfl, _, rfl, rfl, rfl, rfl⟩

/-- A file that asks for the globe. -/
def globeFile : Fields := [
  ("inputs", .arr [.str "a.tif"]),
  ("georeference", .obj [("global", .bool true)])]

/-- A file that asks for the globe keeps it although flags give edges, and the longitude that a flag
gives does not reach the projection that a file names. -/
theorem file_prevails_over_flags :
    (Schema.mosaicConfig.Accepts (.obj globeFile) ∧
      ∃ fields options, merge globeFile edgeFlags.toFields = .ok fields ∧
        MosaicOptions.ofFields fields = .ok options ∧
        options.georeference.manualBounds = some .globe ∧
        (ManualBounds.globe : ManualBounds Float).north ≠ 10.0) ∧
    Schema.mosaicConfig.Accepts (.obj moonFile) ∧
      ∃ fields options spec,
        merge moonFile ({ projLon := some (.of 30.0) } : MosaicFlags).toFields = .ok fields ∧
        MosaicOptions.ofFields fields = .ok options ∧
        options.georeference.projection = some spec ∧ spec.lon = .int 0 :=
  ⟨⟨rfl, _, _, rfl, rfl, rfl, by decide⟩, rfl, _, _, _, rfl, rfl, rfl, rfl⟩

end MosaicFlags

end QuadMosaic
