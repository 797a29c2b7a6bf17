import QuadMosaic.Json.Printer
import QuadMosaic.Session.Files
import QuadMosaic.Tiles.Tree

/-!
# Tile writers

A writer turns a job and the pixels of a pyramid into files.  The built-in one records the quad tree
of the tiles instead of drawing them.
-/

namespace QuadMosaic

/-- A tile writer. -/
structure TileWriter where
  spec : WriterSpec
  generate : TileJob → TileSource Float → Writing TileTree

namespace TileWriter

/-- Who the built-in writer is. -/
def planSpec : WriterSpec := ⟨.str "plan", .str "1", "Record the quad-tree tile index as JSON."⟩

/-- The built-in writer: it finds the tiles with data and records them in one file. -/
def generatePlan (rule : LevelRule) (job : TileJob) (source : TileSource Float) :
    Writing TileTree := do
  let plan ← Writing.ofExcept (TilePlan.ofJob rule job source)
  let path := job.path ".tiles.json"
  Writing.write path (plan.toJson job).document
  pure {
    levels := .int plan.levels.length
    fileType := job.fileType
    tileCount := plan.tileCount
    artifacts := [("tile_plan", path)] }

/-- The built-in writer. -/
def plan (rule : LevelRule := .rounded) : TileWriter := ⟨planSpec, generatePlan rule⟩

end TileWriter

end QuadMosaic
