import QuadMosaic.Schema.MosaicConfig

/-!
# The schema of a report
-/

namespace QuadMosaic.Schema

/-- An object with the given members, and any others. -/
def openObject (kinds : List Kind) (required : List String) (members : List (String × Schema)) :
    Schema :=
  { kinds, required, members }

/-- An integer that is not negative. -/
def naturalNumber : Schema := { kinds := [.integer], least := some 0 }

/-- A latitude in degrees. -/
def latitude : Schema := { kinds := [.number], least := some (-90), greatest := some 90 }

/-- The schema of a box of pixels. -/
def pixelBoxReport : Schema :=
  openObject [.object] ["x", "y", "width", "height"]
    [("x", ofKinds [.integer]), ("y", ofKinds [.integer]), ("width", naturalNumber),
      ("height", naturalNumber)]

/-- The schema of a box in degrees. -/
def lonLatBoxReport : Schema :=
  openObject [.object] ["west", "south", "east", "north"]
    [("west", ofKinds [.number]), ("south", latitude), ("east", ofKinds [.number]),
      ("north", latitude)]

/-- The schema of one input. -/
def inputReport : Schema :=
  openObject [.object] ["path", "cols", "rows"]
    [("path", ofKinds [.string]), ("cols", ofKinds [.integer]), ("rows", ofKinds [.integer])]

/-- The schema of the resolution. -/
def resolutionReport : Schema :=
  openObject [.object, .null] ["total", "aspect_ratio", "xresolution", "yresolution"]
    [("total", positiveInteger), ("aspect_ratio", positiveInteger),
      ("xresolution", ofKinds [.integer]), ("yresolution", ofKinds [.integer])]

/-- The schema of the three boxes of a run. -/
def boundsReport : Schema :=
  openObject [.object, .null] ["total_bbox", "data_bbox", "lonlat_bbox"]
    [("total_bbox", pixelBoxReport), ("data_bbox", pixelBoxReport),
      ("lonlat_bbox", lonLatBoxReport)]

/-- An object all of whose members are texts. -/
def textTable : Schema := { kinds := [.object], others := some (ofKinds [.string]) }

/-- The schema of the tile tree. -/
def tileTreeReport : Schema :=
  openObject [.object] ["writer", "tree_levels", "file_type", "tile_count"]
    [("writer", ofKinds [.string]), ("tree_levels", positiveInteger),
      ("file_type", ofKinds [.string]), ("tile_count", naturalNumber), ("artifacts", textTable)]

/-- The schema of a report. -/
def mosaicReport : Schema :=
  openObject [.object]
    ["schema_version", "created_at", "inputs", "profile", "tile_tree", "sidecars", "warnings"]
    [("schema_version", ofKinds [.string]),
      ("created_at", ofKinds [.string]),
      ("inputs", { kinds := [.array], items := some inputReport }),
      ("profile", ofKinds [.string]),
      ("datum", ofKinds [.string, .null]),
      ("resolution", resolutionReport),
      ("bounds", boundsReport),
      ("tile_tree", tileTreeReport),
      ("sidecars", textTable),
      ("warnings", { kinds := [.array], items := some (ofKinds [.string]) })]

end QuadMosaic.Schema
