import QuadMosaic.Compose.Engine
import QuadMosaic.Pixel.Range

/-!
# The range of all sources

The first pass of normalising reads every source once and joins the ranges found.
-/

namespace QuadMosaic

namespace PixelRange

variable {α : Type} [Scalar α]

/-- The part of the log that the first pass writes to. -/
def logger : String := "geoqtree.geo.source"

/-- The range of one source; a warning when it has no pixel with data. -/
def observeOne (engine : Engine α) (nodata : Option α) (source : RasterSource α) :
    Logging (Option (PixelRange α)) := do
  let pixels ← Logging.ofExcept (engine.pixelsOf source)
  match source.observedRange? nodata pixels with
  | some range => pure (some range)
  | none =>
    Logging.log (LogRecord.warningAbout logger
      ("No valid pixels in " ++ source.path.toString) source.label)
    pure none

/-- The range that all sources share; a failure when no source has a pixel with data. -/
def observe (engine : Engine α) (nodata : Option α) (sources : List (RasterSource α)) :
    Logging (PixelRange α) := do
  let found ← sources.mapM (observeOne engine nodata)
  match mergeAll? found with
  | some range => pure range
  | none => throw (.config .noValidPixel)

end PixelRange

end QuadMosaic
