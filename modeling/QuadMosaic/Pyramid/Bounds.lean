import QuadMosaic.Georeference.Basic
import QuadMosaic.Grid.LonLatBox
import QuadMosaic.Grid.PixelBox
import QuadMosaic.Grid.Resolution

/-!
# The boxes of a pyramid

The data on a canvas is cut to the pyramid: to a square of the quad tree for the profiles that show
a region, to whole tiles for the profiles that show the globe.
-/

namespace QuadMosaic

/-- The least power of two that is at least `n`, and one when `n` is less. -/
def nextPowerOfTwo (n : Int) : Int := if n ≤ 1 then 1 else Nat.pow 2 ((n - 1).toNat.log2 + 1)

namespace PixelBox

variable {κ : Type} [Coordinate κ]

open Coordinate

/-- A box grown to the next multiples of a step: down at its least corner and up at its greatest. -/
def tileAligned (b : PixelBox κ) (size : κ) : PixelBox κ :=
  ⟨floorDiv b.minX size * size, floorDiv b.minY size * size, -floorDiv (-b.maxX) size * size,
    -floorDiv (-b.maxY) size * size⟩

/-- The side of the cells that a box is snapped to: a power of two that holds the box, at most the
whole pyramid. -/
def cellSide (b : PixelBox κ) (total : κ) : κ :=
  min (ofInt (nextPowerOfTwo (truncate (max b.width b.height)))) total

/-- The cell of the grid of a given step that holds the least corner of a box. -/
def cellOf (b : PixelBox κ) (side : κ) : PixelBox κ :=
  ofSize (floorDiv b.minX side * side) (floorDiv b.minY side * side) side side

/-- A cell doubled in both directions: towards smaller coordinates where it already touches the edge
of the pyramid, towards greater ones elsewhere. -/
def doubled (cell : PixelBox κ) (columns rows side : κ) : PixelBox κ where
  minX := if same cell.maxX columns then cell.minX - side else cell.minX
  minY := if same cell.maxY rows then cell.minY - side else cell.minY
  maxX := if same cell.maxX columns then cell.maxX else cell.maxX + side
  maxY := if same cell.maxY rows then cell.maxY else cell.maxY + side

/-- The square of the pyramid's grid around a box: one cell, or four when one does not hold it. -/
def gridSquare (b : PixelBox κ) (columns rows total : κ) : PixelBox κ :=
  let side := b.cellSide total
  let cell := b.cellOf side
  if cell.contains b then cell else cell.doubled columns rows side

end PixelBox

/-- The box of the pyramid, the box of the data, and the first one on the globe. -/
structure PyramidBounds (α : Type) (κ : Type := Int) where
  total : PixelBox κ
  data : PixelBox κ
  lonLat : LonLatBox α

/-- The three boxes as data. -/
def PyramidBounds.toJson {κ : Type} [Coordinate κ] (b : PyramidBounds Float κ) : Json :=
  .obj [("total_bbox", b.total.toJson), ("data_bbox", b.data.toJson),
    ("lonlat_bbox", b.lonLat.toJson)]

namespace PyramidBounds

variable {α : Type} [Scalar α] {κ : Type} [Coordinate κ]

open Scalar

/-- The square of a box on the grid of a resolution. -/
def alignSquare (box : PixelBox κ) (resolution : Resolution κ) : Except Fault (PixelBox κ) := do
  let columns ← resolution.columns
  if Coordinate.same (box.cellSide resolution.total) 0 then .error (.value .divisionByZero)
  else pure (box.gridSquare columns resolution.rows resolution.total)

/-- A box grown to whole tiles. -/
def alignTiles (box : PixelBox κ) (size : κ) : Except Fault (PixelBox κ) :=
  if Coordinate.same size 0 then .error (.value .divisionByZero) else .ok (box.tileAligned size)

/-- A latitude kept between the poles. -/
def clampLatitude (x : α) : α := clamp (ofInt (-90)) (ofInt 90) x

/-- The degrees that a coordinate is away from the edge of a full turn of `turn` pixels. -/
def degrees (turn x : κ) : Except Fault α := do
  let x ← Coordinate.toScalar x
  let turn ← Coordinate.toScalar turn
  if eq turn zero then .error (.value .divisionByZero) else pure (ofInt 360 * x / turn)

/-- The corners of a box on the grid whose pixels are equally many degrees wide and high. -/
def linearLonLat (box : PixelBox κ) (resolution : Resolution κ) :
    Except Fault (LonLatBox α) := do
  let columns ← resolution.columns
  let west ← degrees columns box.minX
  let south ← degrees resolution.rows box.maxY
  let east ← degrees columns box.maxX
  let north ← degrees resolution.rows box.minY
  pure {
    west := ofInt (-180) + west
    south := clampLatitude (ofInt 90 - south)
    east := ofInt (-180) + east
    north := clampLatitude (ofInt 90 - north) }

/-- The corners of a box projected back to the globe. -/
def projectedLonLat (project : Projector α) (box : PixelBox κ) (output : Georeference α) :
    Except Fault (LonLatBox α) := do
  let minX ← Coordinate.toScalar box.minX
  let minY ← Coordinate.toScalar box.minY
  let f ← output.pixelToLonLat project
  let maxX ← Coordinate.toScalar box.maxX
  let maxY ← Coordinate.toScalar box.maxY
  let least := f ⟨minX, minY⟩
  let greatest := f ⟨maxX, maxY⟩
  pure {
    west := least.x
    south := clampLatitude greatest.y
    east := greatest.x
    north := clampLatitude least.y }

/-- The boxes of a pyramid of a square region. -/
def alignRegion (raw : PixelBox κ) (resolution : Resolution κ) :
    Except Fault (PyramidBounds α κ) := do
  let columns ← resolution.columns
  let clipped := raw.crop ⟨0, 0, columns, resolution.rows⟩
  if clipped.isEmpty then .error (.georeference .outsideExtent)
  else
    let total ← alignSquare clipped resolution
    let lonLat ← linearLonLat total resolution
    pure ⟨total, raw.crop total, lonLat⟩

/-- The boxes of a pyramid of the globe. -/
def alignGlobe (project : Projector α) (raw : PixelBox κ) (resolution : Resolution κ)
    (output : Georeference α) (tileSize : κ) : Except Fault (PyramidBounds α κ) := do
  let total : PixelBox κ := ⟨0, 0, resolution.total, resolution.total⟩
  let tiles ← alignTiles raw tileSize
  let data := tiles.crop total
  if data.isEmpty then .error (.georeference .outsideExtent)
  else
    let lonLat ← projectedLonLat project total output
    pure ⟨total, data, lonLat⟩

/-- The boxes of a pyramid. -/
def align (project : Projector α) (profile : Profile) (raw : PixelBox κ)
    (resolution : Resolution κ) (output : Georeference α) (tileSize : κ) :
    Except Fault (PyramidBounds α κ) :=
  if profile.isKmlLike then alignRegion raw resolution
  else alignGlobe project raw resolution output tileSize

end PyramidBounds

end QuadMosaic
