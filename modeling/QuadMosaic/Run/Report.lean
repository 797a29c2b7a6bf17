import QuadMosaic.Run.Mosaic

/-!
# Reports

What a run made, as data that `Schema.mosaicReport` describes.
-/

namespace QuadMosaic

namespace MosaicResult

/-- The version of the schema that reports follow. -/
def reportVersion : String := "1.0"

/-- One input as data. -/
def inputToJson (source : RasterSource Float) : Json :=
  .obj [("path", .str source.path.toString), ("cols", .int source.cols), ("rows", .int source.rows)]

/-- The tiles written as data, and who wrote them. -/
def treeToJson (result : MosaicResult) : Json :=
  .obj (result.tree.toFields ++ [("writer", result.writer.name)])

/-- The resolution of the pyramid as data; null for a pyramid without a place on the globe. -/
def resolutionToJson (result : MosaicResult) : Except Fault Json :=
  match result.placement with
  | none => .ok .null
  | some placement => placement.resolution.toJson

/-- The report of a run, given the time of its making. -/
def report (result : MosaicResult) (createdAt : String) : Except Fault Json := do
  let resolution ← result.resolutionToJson
  let placed (f : Placement → Json) : Json := Json.ofOption f result.placement
  pure (.obj [
    ("schema_version", .str reportVersion),
    ("created_at", .str createdAt),
    ("inputs", Json.ofList inputToJson result.sources),
    ("profile", .str result.viewer.profile.name),
    ("parameters", .obj result.viewer.parameters),
    ("datum", placed fun p ↦ .str p.datum.name),
    ("resolution", resolution),
    ("composite_bbox", placed (·.composite.toJson)),
    ("bounds", placed (·.bounds.toJson)),
    ("tile_tree", result.treeToJson),
    ("sidecars", .obj (Path.toFields result.sidecars)),
    ("warnings", Json.ofList .str result.warnings)])

end MosaicResult

end QuadMosaic
