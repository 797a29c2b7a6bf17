import QuadMosaic.Tiles.Job

/-!
# The quad tree of tiles

The deepest level holds the tiles with data; each level above holds the tiles that four tiles below
make up, until one tile is left.  A tile has a name with one digit for each level, and the number of
levels is the logarithm of the extent in tiles.
-/

namespace QuadMosaic

/-- A tile by its column and its row. -/
structure Tile where
  col : Int
  row : Int
  deriving DecidableEq, Repr, Inhabited

/-- How many times an extent of `span` pixels has to be halved to fit into a tile of `size` pixels,
for `0 < size < span`. -/
abbrev LevelRule := Nat → Nat → Except Fault Nat

namespace LevelRule

/-- The least number of halvings. -/
def exact : LevelRule := fun span size ↦ .ok (Nat.log2 ((span + size - 1) / size - 1) + 1)

/-- The quotient of two numbers rounded to 53 bits: the leading power of two, and what the 53 bits
exceed it by. -/
def roundedQuotient (span size : Nat) : Nat × Nat :=
  let power := Nat.log2 (span / size)
  let top := if power ≤ 52 then span * Nat.pow 2 (52 - power) else span
  let bottom := if power ≤ 52 then size else size * Nat.pow 2 (power - 52)
  let below := top / bottom
  let twice := 2 * (top % bottom)
  let bits :=
    if twice < bottom then below
    else if bottom < twice then below + 1
    else if below % 2 = 0 then below else below + 1
  if bits = 9007199254740992 then (power + 1, 0) else (power, bits - 4503599627370496)

/-- The logarithm of the quotient rounded up, when the quotient is rounded to 53 bits and so is its
logarithm: an excess over a power of two that the logarithm cannot show is lost.  A quotient of
`2 ^ 1024` or more is beyond all doubles. -/
def rounded : LevelRule := fun span size ↦
  let (power, excess) := roundedQuotient span size
  if 1024 ≤ power then .error (.value .outOfRange)
  else if excess * 28854 < Nat.pow 2 (Nat.log2 power) * 10000 then .ok power
  else .ok (power + 1)

end LevelRule

/-- The number of levels of a pyramid: one when the extent fits into a tile. -/
def treeLevels {κ : Type} [Coordinate κ] (rule : LevelRule) (extent : PixelBox κ) (tileSize : κ) :
    Except Fault Int :=
  let span := max extent.width extent.height
  if span ≤ tileSize then .ok 1
  else if Coordinate.same tileSize 0 then .error (.value .divisionByZero)
  else if tileSize < 0 then .error (.value .badValue)
  else do
    let (span, size) := Coordinate.inUnits span tileSize
    let halvings ← rule span.toNat size.toNat
    pure (1 + halvings)

namespace Tile

/-- The digit of a tile among the four children of its parent at a given height above the leaves:
the column gives the low bit, the row the high one. -/
def digit (t : Tile) (height : Nat) : Int :=
  t.col / Nat.pow 2 height % 2 + 2 * (t.row / Nat.pow 2 height % 2)

/-- The digits of a tile from the root down to a level. -/
def digits (t : Tile) : Nat → List Int
  | 0 => []
  | level + 1 => t.digit level :: digits t level

/-- The name of a tile at a level: a letter for the root, then one digit for each level. -/
def name (t : Tile) (level : Int) : String :=
  "r" ++ String.join ((t.digits level.toNat).map toString)

/-- The tile that holds a tile one level up. -/
def parent (t : Tile) : Tile := ⟨Int.fdiv t.col 2, Int.fdiv t.row 2⟩

/-- Rows come first in the order of tiles, then columns. -/
def before (s t : Tile) : Bool := s.row < t.row || (s.row == t.row && s.col ≤ t.col)

/-- A sorted list without the repetitions of neighbours. -/
def dropRepeated : List Tile → List Tile
  | [] => []
  | [t] => [t]
  | s :: t :: rest => if s = t then dropRepeated (t :: rest) else s :: dropRepeated (t :: rest)

/-- The tiles of a list in order, each once. -/
def sorted (tiles : List Tile) : List Tile := dropRepeated (tiles.mergeSort before)

/-- The tiles one level up. -/
def parents (tiles : List Tile) : List Tile := sorted (tiles.map parent)

/-- The tile as data. -/
def toJson (t : Tile) (level : Int) : Json :=
  .obj [("col", .int t.col), ("row", .int t.row), ("name", .str (t.name level))]

end Tile

/-- The tiles of all levels from the deepest to the root, given the tiles of the deepest. -/
def levelsUp (leaves : List Tile) : Nat → List (List Tile)
  | 0 => []
  | n + 1 => leaves :: levelsUp (Tile.parents leaves) n

/-- The integers from `first` on and below `last`. -/
def between (first last : Int) : List Int :=
  (List.range (last - first).toNat).map fun (i : Nat) ↦ first + (i : Int)

namespace TileJob

/-- The box of the pixels that can hold data. -/
def region (job : TileJob) : PixelBox := job.crop.crop job.extent

/-- The pixels of a tile that can hold data. -/
def tileBox (job : TileJob) (t : Tile) : PixelBox :=
  (PixelBox.ofSize (job.extent.minX + t.col * job.tileSize) (job.extent.minY + t.row * job.tileSize)
    job.tileSize job.tileSize).crop job.region

/-- The tiles of the deepest level that touch the region, row by row. -/
def candidates (job : TileJob) : List Tile :=
  let region := job.region
  let first (n : Int) : Int := Int.fdiv n job.tileSize
  let last (n : Int) : Int := -Int.fdiv (-n) job.tileSize
  (between (first (region.minY - job.extent.minY)) (last (region.maxY - job.extent.minY))).flatMap
    fun row ↦
      (between (first (region.minX - job.extent.minX))
        (last (region.maxX - job.extent.minX))).map fun col ↦ ⟨col, row⟩

variable {α : Type} [Scalar α]

/-- Whether pixels hold data: some opaque one, or any at all when there is no transparency; a
failure when no band could be the transparency. -/
def holdsData (hasAlpha : Bool) (pixels : Raster α) : Except Fault Bool :=
  if !hasAlpha then .ok (0 < pixels.bands * pixels.rows * pixels.cols)
  else if pixels.bands = 0 then .error (.value .noSuchIndex)
  else .ok pixels.anyPositive

/-- Whether a tile holds data. -/
def isOccupied (job : TileJob) (source : TileSource α) (hasAlpha : Bool) (t : Tile) :
    Except Fault Bool :=
  if (job.tileBox t).isEmpty then .ok false
  else do
    let pixels ← source.read (job.tileBox t)
    holdsData hasAlpha pixels

/-- The tiles of the deepest level that hold data. -/
def leaves (job : TileJob) (source : TileSource α) (hasAlpha : Bool) : Except Fault (List Tile) :=
  if job.region.isEmpty then .ok []
  else if job.tileSize = 0 then .error (.value .divisionByZero)
  else job.candidates.filterM (job.isOccupied source hasAlpha)

end TileJob

/-- The tiles of every level, the root first. -/
structure TilePlan where
  levels : List (List Tile)

namespace TilePlan

variable {α : Type} [Scalar α]

/-- The plan of a job. -/
def ofJob (rule : LevelRule) (job : TileJob) (source : TileSource α) : Except Fault TilePlan := do
  let levels ← treeLevels rule job.extent job.tileSize
  let leaves ← job.leaves source source.hasAlpha
  pure ⟨(levelsUp leaves levels.toNat).reverse⟩

/-- The number of tiles on all levels. -/
def tileCount (plan : TilePlan) : Nat := plan.levels.flatten.length

/-- One level as data. -/
def levelToJson (level : Nat) (tiles : List Tile) : Json :=
  .obj [("level", .int level), ("tile_count", .int tiles.length),
    ("tiles", Json.ofList (·.toJson level) tiles)]

/-- The plan of a job as data. -/
def toJson (plan : TilePlan) (job : TileJob) : Json :=
  .obj [("output_name", job.outputName), ("profile", .str job.profile.name),
    ("tile_size", .int job.tileSize), ("file_type", .str job.fileType),
    ("extent", job.extent.toJson), ("crop_bbox", job.crop.toJson),
    ("parameters", .obj job.parameters), ("tree_levels", .int plan.levels.length),
    ("tile_count", .int plan.tileCount),
    ("levels", .arr (plan.levels.zipIdx.map fun (tiles, level) ↦ levelToJson level tiles))]

end TilePlan

end QuadMosaic
