import QuadMosaic.Described.Crs
import QuadMosaic.Tiles.Job

/-!
# Jobs and viewers described by data
-/

namespace QuadMosaic

/-- The options of viewers that an object describes. -/
def ViewerSettings.ofMembers (fields : Fields) : ViewerSettings where
  maxLodPixels := fields.getOr "max_lod_pixels" (.int 1024)
  drawOrderOffset := fields.getOr "draw_order_offset" (.int 0)
  terrain := fields.getOr "terrain" (.bool false)
  moduleName := fields.getD "module_name"

/-- The viewer that an object describes. -/
def ViewerConfig.ofMembers (fields : Fields) : Except Fault ViewerConfig := do
  let profile ← Profile.parse (fields.getD "profile")
  let box ←
    match fields.getD "lonlat_bbox" with
    | .obj edges => some <$> LonLatBox.ofMembers edges
    | _ => .ok none
  ViewerConfig.ofProfile profile (ViewerSettings.ofMembers (fields.members "settings")) box

/-- The job that an object describes. -/
def TileJob.ofMembers (fields : Fields) (profile : Profile) (parameters : Fields) :
    Except Fault TileJob := do
  let extent ← PixelBox.ofPixels (fields.getD "extent")
  let crop ← PixelBox.ofPixels (fields.getD "crop_bbox")
  match (← fields.quantity "tile_size").whole? with
  | some tileSize =>
    pure {
      outputName := fields.getD "output_name"
      profile
      extent
      crop
      tileSize
      fileType := (fields.getD "file_type").display
      parameters }
  | none => throw (.value .badKind)

/-- The tree of tiles that an object describes. -/
def TileTree.ofMembers (fields : Fields) : TileTree :=
  ⟨fields.getD "tree_levels", (fields.getD "file_type").display, fields.int "tile_count", []⟩

end QuadMosaic
