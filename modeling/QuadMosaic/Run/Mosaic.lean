import QuadMosaic.Canvas.Read
import QuadMosaic.Compose.Mosaic
import QuadMosaic.Compose.Observe
import QuadMosaic.Options.Basic
import QuadMosaic.Pyramid.Bounds
import QuadMosaic.Pyramid.Estimate
import QuadMosaic.Pyramid.OutputGrid
import QuadMosaic.Session.Basic
import QuadMosaic.Tiles.Sidecar

/-!
# From options to a pyramid

A run opens its inputs, finds out where they lie and how fine they are, lays them onto a canvas, and
hands the canvas to a tile writer.  The profiles that have no place on the globe hand their one
image to the writer as it is.
-/

namespace QuadMosaic

/-- Where a pyramid lies on the globe. -/
structure Placement where
  datum : Datum
  resolution : Resolution
  /-- The grid of the pyramid. -/
  output : Georeference Float
  /-- The box of everything laid onto the canvas. -/
  composite : PixelBox
  bounds : PyramidBounds Float

/-- Everything that a run made. -/
structure MosaicResult where
  sources : List (RasterSource Float)
  writer : WriterSpec
  viewer : ViewerConfig
  job : TileJob
  tree : TileTree
  /-- The files written for the viewer, by kind. -/
  sidecars : List (String × Path) := []
  warnings : List String := []
  /-- The place of the pyramid, for the profiles that have one. -/
  placement : Option Placement := none

/-- The options of a run with its inputs opened and its writer found. -/
structure OpenedRun where
  options : MosaicOptions
  writer : TileWriter
  sources : List (RasterSource Float)
  outputName : Json

namespace OpenedRun

/-- The job of a run. -/
def job (run : OpenedRun) (viewer : ViewerConfig) (extent crop : PixelBox) : TileJob where
  outputName := run.outputName
  profile := viewer.profile
  extent := extent
  crop := crop
  tileSize := run.options.tileSize
  fileType := run.options.fileType
  parameters := viewer.parameters

/-- An image as the pixels of a pyramid. -/
def imageSource (engine : Engine Float) (source : RasterSource Float) : TileSource Float where
  box := source.box
  hasAlpha := source.format.hasAlpha
  read window := do
    let pixels ← engine.pixelsOf source
    pure (pixels.window window)

/-- A canvas as the pixels of a pyramid. -/
def canvasSource {α : Type} [Scalar α] (canvas : Canvas α) : TileSource α where
  box := canvas.box
  hasAlpha := true
  read := canvas.read

/-- The run of a profile without a place on the globe. -/
def plain (run : OpenedRun) (engine : Engine Float) (source : RasterSource Float) :
    Task MosaicResult := do
  let viewer ← Task.ofExcept
    (ViewerConfig.ofProfile run.options.profile run.options.viewerSettings none)
  let job := run.job viewer source.box source.box
  let tree ← Task.onFiles (run.writer.generate job (imageSource engine source))
  pure { sources := run.sources, writer := run.writer.spec, viewer, job, tree }

/-- The range that all sources share, when the run normalises. -/
def range (run : OpenedRun) (engine : Engine Float) : Logging (Option (PixelRange Float)) :=
  if run.options.pixels.normalize then
    some <$> PixelRange.observe engine run.options.pixels.nodata run.sources
  else pure none

/-- How the sources of a run are composed. -/
def composeSettings (run : OpenedRun) (range : Option (PixelRange Float)) :
    ComposeSettings Float where
  pixels := run.options.pixels
  range := range
  channel := run.options.channel?

/-- The place of the pyramid, the canvas before it is prepared, and the warnings that arose. -/
def place (run : OpenedRun) (engine : Engine Float) (rule : ResolutionRule Float) :
    Logging (Placement × Composition Float) := do
  let options := run.options
  let resolved ← Logging.ofExcept (options.georeference.resolve run.sources)
  let placed := run.sources.zip resolved.georeferences
  let resolution ← Logging.ofExcept
    (Resolution.estimate rule options.profile placed options.aspectRatio options.globalResolution)
  let output ← Logging.ofExcept (OutputGrid.ofProfile options.profile resolved.datum resolution)
  let range ← run.range engine
  let composition ← Composition.compose engine (run.composeSettings range) output resolution placed
  let composite := composition.canvas.box
  let bounds ← Logging.ofExcept
    (PyramidBounds.align engine.project options.profile composite resolution output
      options.tileSize)
  pure (⟨resolved.datum, resolution, output, composite, bounds⟩, composition)

/-- The run of a profile with a place on the globe. -/
def placed (run : OpenedRun) (engine : Engine Float) (rule : ResolutionRule Float) :
    Task MosaicResult := do
  let (placement, composition) ← Task.ofLogging (run.place engine rule)
  let bounds := placement.bounds
  let canvas ← Task.ofExcept (composition.canvas.prepare bounds.total (!run.options.multiband))
  let viewer ← Task.ofExcept
    (ViewerConfig.ofProfile run.options.profile run.options.viewerSettings
      (some (bounds.lonLat.map .real)))
  let job := run.job viewer bounds.total bounds.data
  let tree ← Task.onFiles (run.writer.generate job (canvasSource canvas))
  let sidecars ← Task.onFiles (Sidecar.emit viewer job tree)
  pure {
    sources := run.sources
    writer := run.writer.spec
    viewer
    job
    tree
    sidecars
    warnings := composition.warnings
    placement := some placement }

end OpenedRun

namespace Mosaic

/-- The writer given, or else the one that the options name. -/
def writerFor (options : MosaicOptions) (given : Option TileWriter) : Task TileWriter :=
  match given with
  | some writer => pure writer
  | none => Task.writer options.writer

/-- The options checked, the writer found and the inputs opened. -/
def opened (engine : Engine Float) (options : MosaicOptions) (given : Option TileWriter) :
    Task OpenedRun := do
  Task.ofExcept options.validate
  let writer ← writerFor options given
  let sources ← Task.ofExcept (options.inputs.mapM engine.openAt)
  let outputName ← Task.ofExcept options.resolvedOutputName
  pure ⟨options, writer, sources, outputName⟩

/-- A run from its options to the files of its pyramid. -/
def run (engine : Engine Float) (rule : ResolutionRule Float) (options : MosaicOptions)
    (given : Option TileWriter := none) : Task MosaicResult := do
  let opened ← opened engine options given
  if options.profile.isGeoreferenced then opened.placed engine rule
  else
    match opened.sources with
    | source :: _ => opened.plain engine source
    | [] => throw (.config .noInput)

end Mosaic

end QuadMosaic
