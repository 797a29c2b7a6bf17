import QuadMosaic.Pyramid.Viewer
import QuadMosaic.Grid.PixelBox
import QuadMosaic.Raster.Basic
import QuadMosaic.Text.Path
import QuadMosaic.Json.Display

/-!
# Tile jobs

What a tile writer is asked for, what it reads from, and what it answers.
-/

namespace QuadMosaic

/-- A pyramid to be written.  Only tiles that touch `crop` hold data. -/
structure TileJob where
  /-- The name that all files of the pyramid begin with; null when it was never given. -/
  outputName : Json
  profile : Profile
  extent : PixelBox
  crop : PixelBox
  tileSize : Int
  fileType : String
  /-- What the viewer has to be told. -/
  parameters : Fields := []

/-- Pixels in the coordinates of a pyramid. -/
structure TileSource (α : Type) where
  box : PixelBox
  /-- Whether the last band is transparency. -/
  hasAlpha : Bool
  read : PixelBox → Except Fault (Raster α)

/-- What a writer made of a job. -/
structure TileTree where
  /-- The number of levels, as the writer gave it. -/
  levels : Json
  fileType : String
  tileCount : Int
  /-- The files written, by kind. -/
  artifacts : List (String × Path) := []

/-- Who a writer is, as the writer says it. -/
structure WriterSpec where
  name : Json
  version : Json
  description : String := ""
  deriving Repr

/-- Paths as data. -/
def Path.toFields (paths : List (String × Path)) : Fields :=
  paths.map fun (kind, path) ↦ (kind, .str path.toString)

/-- Who a writer is, as data. -/
def WriterSpec.toJson (s : WriterSpec) : Json :=
  .obj [("name", s.name), ("version", s.version), ("description", .str s.description)]

/-- The answer of a writer as data. -/
def TileTree.toFields (t : TileTree) : Fields :=
  [("tree_levels", t.levels), ("file_type", .str t.fileType),
    ("tile_count", .int t.tileCount), ("artifacts", .obj (Path.toFields t.artifacts))]

/-- The path of a file of a pyramid: the output name with an ending. -/
def TileJob.path (job : TileJob) (ending : String) : Path :=
  Path.ofString (job.outputName.display ++ ending)

end QuadMosaic
