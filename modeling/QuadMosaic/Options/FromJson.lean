import QuadMosaic.Options.Basic
import QuadMosaic.Options.Coerce

/-!
# Options read from data

Every option is read under its key, in a fixed order, with a default for an absent key.
-/

namespace QuadMosaic

/-- The profile that a value names; an underscore stands for a hyphen. -/
def Profile.parse (value : Json) : Except Fault Profile :=
  let key := Text.replaceChar '_' '-' (Text.lower (Text.strip value.display))
  match Profile.all.find? (·.name = key) with
  | some profile => .ok profile
  | Option.none => .error (.config (.unknownProfile value.display))

namespace ManualBounds

/-- The keys of the edges. -/
def keys : List String := ["north", "south", "east", "west"]

/-- The bounds among the members of an object: none when no edge is given, a failure when some but
not all are. -/
def ofFields (fields : Fields) : Except Fault (Option (ManualBounds Float)) :=
  let missing := keys.filter fun k ↦ fields.getD k matches .null
  if missing = keys then .ok none
  else if missing ≠ [] then .error (.config (.incompleteBounds missing))
  else do
    let north ← (fields.getD "north").toReal
    let south ← (fields.getD "south").toReal
    let east ← (fields.getD "east").toReal
    let west ← (fields.getD "west").toReal
    pure (some ⟨north, south, east, west⟩)

/-- The bounds that a value gives, or those of the globe when these are asked for. -/
def ofJson (value : Json) (global : Bool) : Except Fault (Option (ManualBounds Float)) :=
  if global then .ok (some globe)
  else if !value.isGiven then .ok none
  else do
    let fields ← value.toMembers
    ofFields fields

end ManualBounds

namespace ProjectionSpec

/-- The projection that a value gives, if it names one. -/
def ofJson (value : Json) : Except Fault (Option ProjectionSpec) := do
  let fields ← value.toMembers
  match fields.getD "type" with
  | .null => pure none
  | .str "none" => pure none
  | type => do
    let kind ← ProjectionKind.parse type
    let scale ← (fields.getOr "scale" (.real 1.0)).toReal
    let zone ← (fields.getD "utm_zone").toInt?
    pure (some {
      kind
      lat := fields.getD "lat"
      lon := fields.getD "lon"
      scale := .real scale
      p1 := fields.getD "p1"
      p2 := fields.getD "p2"
      utmZone := Json.ofOption .int zone })

end ProjectionSpec

/-- The georeference options that a value gives. -/
def GeoreferenceOptions.ofJson (value : Json) : Except Fault (GeoreferenceOptions Float) := do
  let fields ← value.toMembers
  let datum ← DatumOverride.parse (fields.getD "datum")
  let sphereRadius ← (fields.getD "sphere_radius").toReal?
  let projection ← ProjectionSpec.ofJson (fields.getD "projection")
  let manualBounds ← ManualBounds.ofJson (fields.getD "bounds") (fields.getD "global").isGiven
  let nudgeX ← (fields.getOr "nudge_x" (.real 0.0)).toReal
  let nudgeY ← (fields.getOr "nudge_y" (.real 0.0)).toReal
  pure {
    datum
    sphereRadius := sphereRadius.map .real
    projection
    manualBounds
    nudgeX
    nudgeY }

/-- The pixel options that a value gives. -/
def PixelOptions.ofJson (value : Json) : Except Fault (PixelOptions Float) := do
  let fields ← value.toMembers
  let nodata ← (fields.getD "nodata").toReal?
  let scale ← (fields.getOr "pixel_scale" (.real 1.0)).toReal
  let offset ← (fields.getOr "pixel_offset" (.real 0.0)).toReal
  pure { nodata, scale, offset, normalize := (fields.getD "normalize").isGiven }

namespace MosaicOptions

/-- The path that a value names. -/
def pathOf : Json → Except Fault Path
  | .str s => .ok (Path.ofString s)
  | _ => .error (.value .badKind)

/-- The inputs that a value gives: one text, a list of texts, or the keys of an object. -/
def inputsOf (value : Json) : Except Fault (List Path) :=
  if !value.isGiven then .ok []
  else
    match value with
    | .str s => .ok [Path.ofString s]
    | .arr items => items.mapM pathOf
    | .obj fields => .ok ((Fields.keys fields).map Path.ofString)
    | _ => .error (.value .badKind)

/-- The options that an object gives, before they are checked. -/
def readFields (fields : Fields) : Except Fault MosaicOptions := do
  let inputs ← inputsOf (fields.getD "inputs")
  let profile ← Profile.parse (fields.getOr "profile" (.str "kml"))
  let georeference ← GeoreferenceOptions.ofJson (fields.getD "georeference")
  let pixels ← PixelOptions.ofJson (fields.getD "pixels")
  let aspectRatio ← (fields.getOr "aspect_ratio" (.int 1)).toInt
  let globalResolution ← (fields.getD "global_resolution").toInt?
  let tileSize ← (fields.getOr "tile_size" (.int 256)).toInt
  let maxLodPixels ← (fields.getOr "max_lod_pixels" (.int 1024)).toInt
  let drawOrderOffset ← (fields.getOr "draw_order_offset" (.int 0)).toInt
  pure {
    inputs
    outputName := fields.getD "output_name"
    profile
    georeference
    pixels
    aspectRatio
    globalResolution
    tileSize
    fileType := (fields.getOr "file_type" (.str "png")).display
    channelType := fields.getD "channel_type"
    multiband := (fields.getD "multiband").isGiven
    maxLodPixels
    drawOrderOffset
    terrain := (fields.getD "terrain").isGiven
    moduleName := fields.getD "module_name"
    writer := (fields.getOr "writer" (.str "plan")).display }

/-- The options that an object gives. -/
def ofFields (fields : Fields) : Except Fault MosaicOptions := do
  let options ← readFields fields
  options.validate
  pure options

end MosaicOptions

end QuadMosaic
