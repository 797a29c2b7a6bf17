import QuadMosaic.Schema.Basic

/-!
# The schema of a configuration file
-/

namespace QuadMosaic.Schema

/-- A value of the given kinds. -/
def ofKinds (kinds : List Kind) : Schema := { kinds }

/-- One of some words. -/
def oneWordOf (words : List String) : Schema :=
  { kinds := [.string], choices := some (words.map .str) }

/-- A text with at least one character. -/
def someText : Schema := { kinds := [.string], nonEmpty := true }

/-- An integer that is at least one. -/
def positiveInteger : Schema := { kinds := [.integer], least := some 1 }

/-- An object with the given members and no others. -/
def closedObject (required : List String) (members : List (String × Schema)) : Schema :=
  { kinds := [.object], required, members, closed := true }

/-- The schema of the projection that every source is reprojected to. -/
def projectionConfig : Schema :=
  closedObject ["type"]
    [("type", oneWordOf ["none", "sinusoidal", "mercator", "transverse-mercator", "orthographic",
        "stereographic", "lambert-azimuthal", "lambert-conformal-conic", "utm", "plate-carree"]),
      ("lat", ofKinds [.number, .null]),
      ("lon", ofKinds [.number, .null]),
      ("scale", ofKinds [.number]),
      ("p1", ofKinds [.number, .null]),
      ("p2", ofKinds [.number, .null]),
      ("utm_zone",
        { kinds := [.integer, .null], least := some (-60), greatest := some 60 })]

/-- The schema of the bounds typed by hand. -/
def boundsConfig : Schema :=
  closedObject []
    [("north", ofKinds [.number]), ("south", ofKinds [.number]), ("east", ofKinds [.number]),
      ("west", ofKinds [.number])]

/-- The schema of the georeference options. -/
def georeferenceConfig : Schema :=
  closedObject []
    [("datum", oneWordOf ["none", "wgs84", "lunar", "mars", "sphere"]),
      ("sphere_radius", { kinds := [.number, .null], floor := some 0 }),
      ("projection", projectionConfig),
      ("bounds", boundsConfig),
      ("global", ofKinds [.boolean]),
      ("nudge_x", ofKinds [.number]),
      ("nudge_y", ofKinds [.number])]

/-- The schema of the pixel options. -/
def pixelsConfig : Schema :=
  closedObject []
    [("nodata", ofKinds [.number, .null]),
      ("pixel_scale", ofKinds [.number]),
      ("pixel_offset", ofKinds [.number]),
      ("normalize", ofKinds [.boolean])]

/-- The schema of a configuration file. -/
def mosaicConfig : Schema :=
  closedObject ["inputs"]
    [("schema_version", ofKinds [.string]),
      ("inputs", { kinds := [.array], nonEmpty := true, items := some someText }),
      ("output_name", ofKinds [.string, .null]),
      ("profile", oneWordOf ["none", "kml", "tms", "uniview", "gmap", "celestia", "gigapan",
        "gigapan-noproj"]),
      ("georeference", georeferenceConfig),
      ("pixels", pixelsConfig),
      ("aspect_ratio", positiveInteger),
      ("global_resolution", { kinds := [.integer, .null], least := some 1 }),
      ("tile_size", positiveInteger),
      ("file_type", someText),
      ("channel_type",
        { kinds := [.string, .null],
          choices := some [.str "uint8", .str "uint16", .str "int16", .str "float32", .null] }),
      ("multiband", ofKinds [.boolean]),
      ("max_lod_pixels", ofKinds [.integer]),
      ("draw_order_offset", ofKinds [.integer]),
      ("terrain", ofKinds [.boolean]),
      ("module_name", ofKinds [.string, .null]),
      ("writer", someText)]

end QuadMosaic.Schema
