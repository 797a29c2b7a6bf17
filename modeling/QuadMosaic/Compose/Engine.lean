import QuadMosaic.Georeference.Transfer
import QuadMosaic.Log.Record
import QuadMosaic.Raster.Source

/-!
# What the composition relies on

Reading images, relating reference systems and resampling pixels are done by an engine; everything
else is said in terms of it.
-/

namespace QuadMosaic

/-- The services that a mosaic is made with. -/
structure Engine (α : Type) where
  /-- What is known about the image at a path, if there is one. -/
  openSource : Path → Option (RasterSource α)
  /-- The bands of an image that are used, if they can be read. -/
  readSource : RasterSource α → Option (Raster α)
  /-- The maps between reference systems. -/
  project : Projector α
  /-- Pixels resampled from one georeference into a box of another.  The last argument says whether
  the first and the last column are neighbours. -/
  warp : Raster α → Georeference α → Georeference α → PixelBox → Bool → Raster α

/-- An action that may write to the log. -/
abbrev Logging := EStateM Fault (List LogRecord)

namespace Logging

/-- A result that needs no log. -/
def ofExcept {β : Type} : Except Fault β → Logging β
  | .ok b => pure b
  | .error e => throw e

/-- A line added to the log, whose last line comes first. -/
def log (record : LogRecord) : Logging Unit := modify fun records ↦ record :: records

end Logging

namespace Engine

variable {α : Type}

/-- What is known about the image at a path; a failure when there is none. -/
def openAt (engine : Engine α) (path : Path) : Except Fault (RasterSource α) :=
  match engine.openSource path with
  | some source => .ok source
  | none => .error (.unreadableRaster path.toString)

/-- The bands of an image that are used; a failure when they cannot be read. -/
def pixelsOf (engine : Engine α) (source : RasterSource α) : Except Fault (Raster α) :=
  match engine.readSource source with
  | some pixels => .ok pixels
  | none => .error (.unreadableRaster source.path.toString)

end Engine

end QuadMosaic
