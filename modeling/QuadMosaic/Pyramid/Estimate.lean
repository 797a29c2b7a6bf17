import QuadMosaic.Georeference.Transfer
import QuadMosaic.Grid.Resolution
import QuadMosaic.Raster.Source

/-!
# The resolution that keeps all detail

The resolution of a pyramid is the greatest that some sample pixel of some source asks for, and at
least a fixed floor.
-/

namespace QuadMosaic

/-- The resolution that a profile needs to keep the detail of a map to longitudes and latitudes at a
pixel. -/
abbrev ResolutionRule (α : Type) := Profile → Transfer α → Int → Int → Except Fault Int

namespace Resolution

/-- The least resolution of a pyramid. -/
def least : Int := 1024

/-- The greatest power of two that is ever asked for. -/
def greatestPower : Int := 30

/-- The power of two of pixels on a full turn that a step of some degrees asks for. -/
def powerFor (degrees : Float) : Except Fault Int := do
  let power ← Scalar.toInt (Scalar.ceil ((360.0 / degrees).log2 - 1e-9))
  pure (max 0 (min power greatestPower))

/-- The pixels on a full turn that a step of some degrees asks for: none when the step is not a
finite number, the most when there is no step. -/
def pixelsFor (degrees : Float) : Except Fault Int :=
  if !Scalar.isFinite degrees then .ok 0
  else if degrees ≤ 0.0 then .ok (Nat.pow 2 greatestPower.toNat)
  else do
    let power ← powerFor degrees
    pure (Nat.pow 2 power.toNat)

/-- The power of two of pixels on a full turn at which the steps from a place among the source
pixels to the next column and the next row, in degrees, take no more than a pixel. -/
def geodeticAt (project : Projector Float) (profile : Profile) (transfer : Transfer Float)
    (place : Point Float) : Except Fault Int :=
  if !profile.isGeoreferenced then .error (.config (.noPyramidResolution profile))
  else do
    let f ← transfer.forward project
    let here := f place
    let right := f ⟨place.x + 1.0, place.y⟩
    let down := f ⟨place.x, place.y + 1.0⟩
    let stepX := Projection.hypotenuse (right.x - here.x) (right.y - here.y)
    let stepY := Projection.hypotenuse (down.x - here.x) (down.y - here.y)
    pixelsFor (Scalar.lesser stepX stepY)

/-- The same power of two at a source pixel. -/
def geodetic (project : Projector Float) : ResolutionRule Float := fun profile transfer x y ↦
  geodeticAt project profile transfer ⟨Float.ofInt x, Float.ofInt y⟩

/-- The centre pixel of an image and the four that are a quarter of its size away. -/
def samplePixels {κ : Type} [Coordinate κ] (cols rows : κ) : List (κ × κ) :=
  let part (length : κ) (n : Int) : κ := Coordinate.floorDiv length (Coordinate.ofInt n)
  let cx := part cols 2
  let cy := part rows 2
  [(cx, cy), (cx + part cols 4, cy), (cx - part cols 4, cy), (cx, cy + part rows 4),
    (cx, cy - part rows 4)]

variable {α : Type} [Scalar α] {κ : Type} [Coordinate κ]

/-- A list of actions in order, each given the greatest value so far. -/
def greatestOf {m : Type → Type} [Monad m] {β : Type} (value : β → m κ) (start : κ)
    (items : List β) : m κ :=
  items.foldlM (fun total item ↦ do
    let n ← value item
    pure (max total n)) start

/-- The greatest resolution asked for at the sample pixels of a source, or the total so far.  A rule
may carry an effect. -/
def raiseFor {m : Type → Type} [Monad m] [MonadExceptOf Fault m]
    (rule : Profile → Transfer α → Int → Int → m κ) (profile : Profile) (total : κ)
    (source : RasterSource α) (georeference : Georeference α) : m κ := do
  let target ← MonadExcept.ofExcept (Georeference.geographic georeference.crs.datum)
  greatestOf (fun (x, y) ↦ rule profile ⟨georeference, target⟩ x y) total
    (samplePixels (source.cols : Int) (source.rows : Int))

/-- The resolution of a pyramid: the greatest asked for, or the one given instead. -/
def estimate {m : Type → Type} [Monad m] [MonadExceptOf Fault m]
    (rule : Profile → Transfer α → Int → Int → m κ) (profile : Profile)
    (sources : List (RasterSource α × Georeference α)) (aspectRatio : κ)
    (override : Option κ) : m (Resolution κ) := do
  let total ← sources.foldlM (fun total (source, georeference) ↦
    raiseFor rule profile total source georeference) (Coordinate.ofInt least)
  pure ⟨override.getD total, aspectRatio⟩

end Resolution

end QuadMosaic
