import QuadMosaic.Georeference.Bounds
import QuadMosaic.Raster.Source

/-!
# Georeferences of a run

Every source gets a georeference: the one it carries, or bounds typed by hand, with datum,
projection and position replaced as the options say.
-/

namespace QuadMosaic

/-- What replaces parts of the georeferences of the sources. -/
structure GeoreferenceOptions (α : Type) where
  datum : DatumOverride := .none
  sphereRadius : Option Quantity := none
  projection : Option ProjectionSpec := none
  manualBounds : Option (ManualBounds α) := none
  nudgeX : α
  nudgeY : α

/-- The georeferences of the sources, in their order, and the datum of the run. -/
structure ResolvedGeoreferences (α : Type) (C : Type := Crs) where
  georeferences : List (Georeference α C)
  datum : Datum

namespace GeoreferenceOptions

variable {α C : Type} [Scalar α]

/-- Options that replace nothing. -/
def unchanged : GeoreferenceOptions α := { nudgeX := Scalar.zero, nudgeY := Scalar.zero }

/-- The georeference that a source starts from: its own, or longitudes and latitudes when bounds are
typed by hand. -/
def start [ReferenceSystem C] (options : GeoreferenceOptions α) (source : RasterSource α C) :
    Except Fault (Georeference α C) :=
  match source.georeference?, options.manualBounds with
  | some g, _ => .ok g
  | none, none => .error (.georeference (.absent source.path.toString))
  | none, some _ => Georeference.geographic Datum.wgs84

/-- The georeference with its datum replaced, if there is a replacement. -/
def applyDatum [ReferenceSystem C] (datum : Option Datum) (g : Georeference α C) :
    Except Fault (Georeference α C) :=
  match datum with
  | none => .ok g
  | some d => g.withDatum d

/-- The georeference with its affine map replaced, if bounds are typed by hand. -/
def applyBounds (options : GeoreferenceOptions α) (source : RasterSource α C)
    (g : Georeference α C) : Except Fault (Georeference α C) :=
  match options.manualBounds with
  | none => .ok g
  | some b => do
    let transform ← b.transform source.cols source.rows
    pure (g.withTransform transform)

/-- The georeference with its projection replaced, if there is a replacement. -/
def applyProjection [ReferenceSystem C] (options : GeoreferenceOptions α)
    (g : Georeference α C) : Except Fault (Georeference α C) :=
  match options.projection with
  | none => .ok g
  | some spec => g.withProjection spec

/-- The georeference moved, unless the move is zero. -/
def applyNudge (options : GeoreferenceOptions α) (g : Georeference α C) : Georeference α C :=
  if Scalar.eq options.nudgeX Scalar.zero && Scalar.eq options.nudgeY Scalar.zero then g
  else g.nudge options.nudgeX options.nudgeY

/-- The georeference of one source. -/
def resolveOne [ReferenceSystem C] (options : GeoreferenceOptions α) (datum : Option Datum)
    (source : RasterSource α C) : Except Fault (Georeference α C) := do
  let g ← options.start source
  let g ← applyDatum datum g
  let g ← options.applyBounds source g
  let g ← options.applyProjection g
  pure (options.applyNudge g)

/-- The georeferences of all sources and the datum of the first. -/
def resolve [ReferenceSystem C] (options : GeoreferenceOptions α)
    (sources : List (RasterSource α C)) : Except Fault (ResolvedGeoreferences α C) :=
  if sources = [] then .error (.config .noSource)
  else if options.manualBounds.isSome ∧ sources.length ≠ 1 then
    .error (.config .boundsForManyImages)
  else do
    let datum ← options.datum.datum options.sphereRadius
    match ← sources.mapM (options.resolveOne datum) with
    | [] => .error (.config .noSource)
    | g :: rest => pure ⟨g :: rest, ReferenceSystem.datum g.crs⟩

end GeoreferenceOptions

end QuadMosaic
