import QuadMosaic.Tiles.Writer

/-!
# Files next to a pyramid

Two viewers need small text files that describe a pyramid; they are written beside it.
-/

namespace QuadMosaic

namespace Sidecar

/-- Who made the files. -/
def callstring : String := "Generated by geoqtree."

/-- The last component of the output name. -/
def title (job : TileJob) : Except Fault String :=
  match job.outputName with
  | .str s => .ok (Path.ofString s).name
  | _ => .error (.value .badKind)

/-- Lines, each with its end. -/
def lines (ls : List String) : String := String.join (ls.map (· ++ "\n"))

/-- The level that is the deepest of a tree. -/
def deepest (tree : TileTree) : Except Fault String := do
  let levels ← Quantity.ofJson tree.levels
  pure (levels - .whole 1).toJson.display

/-- The description of a dataset of textures. -/
def textureText (moduleName : Json) (title deepest : String) (job : TileJob) (tree : TileTree) :
    String :=
  let location := "modules/" ++ moduleName.display ++ "/Offlinedatasets/" ++ title
  lines ["[Offlinedataset]", "NrRows=1", "NrColumns=2", "Bbox= -180 -90 180 90",
    "DatasetTitle=" ++ title, "Tessellation=19", "", "// Texture",
    "TextureCacheLocation=" ++ location ++ "/Texture/",
    "TextureCallstring=" ++ callstring,
    "TextureFormat=" ++ tree.fileType,
    "TextureLevels= " ++ deepest,
    "TextureSize= " ++ toString job.tileSize, ""]

/-- The description of a dataset of heights. -/
def terrainText (moduleName : Json) (title deepest : String) (tree : TileTree) : String :=
  let location := "modules/" ++ moduleName.display ++ "/Offlinedatasets/" ++ title
  lines ["// Terrain",
    "HeightmapCacheLocation=" ++ location ++ "/Terrain/",
    "HeightmapCallstring=" ++ callstring,
    "HeightmapFormat=" ++ tree.fileType,
    "NrHeightmapLevels=" ++ deepest,
    "NrLevelsPerHeightmap=1"]

/-- The description of a virtual texture. -/
def virtualTextureText (title : String) (job : TileJob) : String :=
  lines ["VirtualTexture", "\x7b",
    "        ImageDirectory \"" ++ title ++ "\"",
    "        BaseSplit 0",
    "        TileSize " ++ toString (Int.fdiv job.tileSize 2),
    "        TileType \"" ++ job.fileType ++ "\"", "\x7d"]

/-- The definition of a surface that shows the virtual texture beside it. -/
def surfaceText (moduleName : Json) (title : String) : String :=
  lines ["AltSurface \"" ++ title ++ "\" \"" ++ moduleName.display ++ "\"", "\x7b",
    "    Texture \"" ++ title ++ ".ctx\"", "\x7d"]

/-- The files written for a viewer, by kind. -/
def emit (config : ViewerConfig) (job : TileJob) (tree : TileTree) :
    Writing (List (String × Path)) :=
  match config with
  | .uniview moduleName terrain => do
    let title ← Writing.ofExcept (title job)
    let deepest ← Writing.ofExcept (deepest tree)
    let path := job.path ".conf"
    Writing.write path
      (if terrain.isGiven then terrainText moduleName title deepest tree
      else textureText moduleName title deepest job tree)
    pure [("uniview_conf", path)]
  | .celestia moduleName => do
    let title ← Writing.ofExcept (title job)
    let texture := job.path ".ctx"
    let surface := job.path ".ssc"
    Writing.write texture (virtualTextureText title job)
    Writing.write surface (surfaceText moduleName title)
    pure [("celestia_ctx", texture), ("celestia_ssc", surface)]
  | _ => pure []

end Sidecar

end QuadMosaic
