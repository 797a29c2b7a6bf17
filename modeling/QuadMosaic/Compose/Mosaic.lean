import QuadMosaic.Canvas.Basic
import QuadMosaic.Compose.Engine
import QuadMosaic.Grid.Resolution
import QuadMosaic.Pixel.Adjust

/-!
# Composition

Every source is warped into the pixels of the pyramid and laid onto a canvas.  The pyramid ends at
the antimeridian, so what passes its right edge is laid down once more a full turn further left.
-/

namespace QuadMosaic

/-- A view laid onto the canvas, and whether it is the copy a full turn away. -/
structure Insertion where
  label : String
  box : PixelBox
  wrapped : Bool
  deriving DecidableEq, Repr

/-- A canvas with its insertions and the warnings that arose. -/
structure Composition (α : Type) where
  canvas : Canvas α
  insertions : List Insertion := []
  warnings : List String := []

/-- How a mosaic is composed. -/
structure ComposeSettings (α : Type) where
  pixels : PixelOptions α
  range : Option (PixelRange α) := none
  /-- The channel type of the canvas, if it is not that of the first source. -/
  channel : Option ChannelType := none
  /-- The number of colour bands of the canvas, if it is not the greatest of the sources. -/
  colorBands : Option Nat := none

namespace Composition

/-- The part of the log that the composition writes to. -/
def logger : String := "geoqtree.geo.compose"

/-- The warning that a rescale is ignored. -/
def rescaleIgnored : String :=
  "Both normalization and pixel rescaling requested; ignoring the rescale."

/-- The warning that a source is left out. -/
def noOverlap (path : Path) : String :=
  "Source " ++ path.toString ++ " does not overlap the output extent; skipping."

/-- The columns at which a box is laid down, and whether each is the copy a full turn to the left: a
copy for what passes the right edge, the box itself unless it lies wholly beyond that edge. -/
def origins {κ : Type} [Coordinate κ] (box : PixelBox κ) (columns total : κ) : List (κ × Bool) :=
  (if columns < box.maxX then [(box.minX - total, true)] else []) ++
    (if box.minX < columns then [(box.minX, false)] else [])

/-- The box that warped sources are cut to: a full turn more on either side of the pyramid. -/
def extent (columns rows total : Int) : PixelBox := ⟨-total, 0, columns + total, rows⟩

variable {α : Type} [Scalar α]

/-- The box of a source among the pixels of the pyramid. -/
def targetBox (engine : Engine α) (output : Georeference α) (columns : Int)
    (resolution : Resolution) (source : RasterSource α) (georeference : Georeference α) :
    Except Fault PixelBox := do
  let box ← Transfer.forwardBox ⟨georeference, output⟩ engine.project source.box
  pure (box.crop (extent columns resolution.rows resolution.total))

/-- The composition with the same pixels laid down at every origin. -/
def lay (pixels : Raster α) (minY : Int) (label : String) :
    List (Int × Bool) → Composition α → Except Fault (Composition α)
  | [], c => .ok c
  | (x, wrapped) :: rest, c => do
    let (canvas, view) ← c.canvas.insert pixels.toBlock x minY label
    lay pixels minY label rest
      { c with canvas, insertions := c.insertions ++ [⟨label, view.box, wrapped⟩] }

/-- The pixels of a source, adjusted and warped into a box of the pyramid, in the channel type of
the canvas. -/
def warped (engine : Engine α) (settings : ComposeSettings α) (output : Georeference α)
    (channel : ChannelType) (colorBands : Nat) (source : RasterSource α)
    (georeference : Georeference α) (box : PixelBox) (wrap : Bool) : Except Fault (Raster α) := do
  let pixels ← engine.pixelsOf source
  let bands ← Planes.bandCount (pixels.take source.format.colorBands).bands (colorBands : Int)
  let adjusted ← source.adjust pixels settings.pixels channel bands settings.range
  pure ((engine.warp adjusted.force georeference output box wrap).map (·.cast channel))

/-- The composition with one more source. -/
def addSource (engine : Engine α) (settings : ComposeSettings α) (output : Georeference α)
    (resolution : Resolution) (columns : Int) (channel : ChannelType) (colorBands : Nat)
    (c : Composition α) (source : RasterSource α) (georeference : Georeference α) :
    Logging (Composition α) := do
  let wrap ← Logging.ofExcept (georeference.isGlobal engine.project source.cols source.rows)
  let box ← Logging.ofExcept (targetBox engine output columns resolution source georeference)
  if box.isEmpty then
    Logging.log (LogRecord.warningAbout logger (noOverlap source.path) source.label)
    pure { c with warnings := c.warnings ++ [noOverlap source.path] }
  else
    let pixels ← Logging.ofExcept
      (warped engine settings output channel colorBands source georeference box wrap)
    Logging.ofExcept
      (lay pixels box.minY source.label (origins box columns resolution.total) c)

/-- The channel type of the canvas. -/
def channelOf (settings : ComposeSettings α) (sources : List (RasterSource α)) :
    Except Fault ChannelType :=
  match settings.channel, sources with
  | some channel, _ => .ok channel
  | none, source :: _ => .ok source.channel
  | none, [] => .error (.value .badValue)

/-- The number of colour bands of the canvas. -/
def colorBandsOf (settings : ComposeSettings α) (sources : List (RasterSource α)) :
    Except Fault Nat :=
  match settings.colorBands, sources with
  | some bands, _ => .ok bands
  | none, source :: rest =>
    .ok (rest.foldl (fun bands s ↦ max bands s.format.colorBands) source.format.colorBands)
  | none, [] => .error (.value .badValue)

/-- The canvas with all sources on it, in their order. -/
def compose (engine : Engine α) (settings : ComposeSettings α) (output : Georeference α)
    (resolution : Resolution) (sources : List (RasterSource α × Georeference α)) :
    Logging (Composition α) := do
  if settings.pixels.normalize && settings.range.isNone then
    throw (.config .pixelRangeAbsent)
  let ignored := settings.pixels.normalize && settings.pixels.rescales
  if ignored then Logging.log (LogRecord.warning logger rescaleIgnored)
  let channel ← Logging.ofExcept (channelOf settings (sources.map (·.1)))
  let colorBands ← Logging.ofExcept (colorBandsOf settings (sources.map (·.1)))
  let columns ← Logging.ofExcept resolution.columns
  let start : Composition α :=
    { canvas := Canvas.new (colorBands + 1) channel
      warnings := if ignored then [rescaleIgnored] else [] }
  sources.foldlM (fun c (source, georeference) ↦
    addSource engine settings output resolution columns channel colorBands c source georeference)
    start

end Composition

end QuadMosaic
