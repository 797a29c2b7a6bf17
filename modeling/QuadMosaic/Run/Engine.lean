import QuadMosaic.Compose.Warp
import QuadMosaic.Session.Files

/-!
# The engine on the files of a session
-/

namespace QuadMosaic

/-- The engine that finds images among files and relates reference systems by their formulas. -/
def Engine.ofFiles (files : Files) : Engine Float where
  openSource path := (files.openImage? path).map (·.1)
  readSource source := (files.openImage? source.path).map (·.2)
  project := Crs.transform
  warp := Warp.warp Crs.transform

end QuadMosaic
