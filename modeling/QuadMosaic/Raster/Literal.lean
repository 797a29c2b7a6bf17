import QuadMosaic.Options.Coerce
import QuadMosaic.Raster.Basic

/-!
# Samples written out as data

The samples of an image or an array can be written out as numbers.  Each number is stored in a
channel, which refuses an integer beyond its limits; a number with a fraction is cut to an integer
and keeps the remainder that a channel of integers can hold.
-/

namespace QuadMosaic

namespace ChannelType

/-- The channel type that a value names; nothing given stands for the widest of fractions. -/
def ofJson : Json → Except Fault ChannelType
  | .null => .ok float64
  | .str word =>
    match ofWord? word with
    | some t => .ok t
    | none => .error (.value .badKind)
  | _ => .error (.value .badKind)

/-- The integer within limits that differs by a multiple of their width. -/
def remainder (lo hi n : Int) : Int := (n - lo) % (hi - lo + 1) + lo

/-- The greatest integer that a number with a fraction may be cut to. -/
def greatestCut : ChannelType → Int
  | uint32 | uint64 => 18446744073709551615
  | _ => 9223372036854775807

/-- The least integer that a number with a fraction may be cut to. -/
def leastCut : Int := -9223372036854775808

/-- A value stored in a channel of integers with the given limits. -/
def storeInteger (t : ChannelType) (lo hi : Int) (value : Json) : Except Fault Int :=
  match value with
  | .null | .obj _ => .error (.value .badKind)
  | .arr _ => .error (.value .badValue)
  | .int n => if lo ≤ n ∧ n ≤ hi then .ok n else .error (.value .outOfRange)
  | .bool b => .ok (ofBool b)
  | value => do
    let n ← value.toReal >>= Json.truncate
    if leastCut ≤ n ∧ n ≤ t.greatestCut then pure (remainder lo hi n)
    else throw (.value .outOfRange)

/-- Whether a value counts as true in a channel of truth values. -/
def isTrue (value : Json) : Bool :=
  match value with
  | .str s => (Decimal.readFloat? s).elim false fun x ↦ !(x == 0.0)
  | value => value.isGiven

/-- A value stored in a channel. -/
def store (t : ChannelType) (value : Json) : Except Fault (Sample Float) :=
  match t.limits?, value with
  | some (lo, hi), value => .whole <$> t.storeInteger lo hi value
  | none, .null => .ok (t.cast (if t = bool then 0.0 else 0.0 / 0.0))
  | none, value =>
    if t = bool then .ok (.whole (ofBool (isTrue value))) else t.cast <$> value.toReal

/-- An integer kept in a channel as the remainder that it can hold. -/
def wrap (t : ChannelType) (n : Int) : Sample Float :=
  match t.limits? with
  | some (lo, hi) => .whole (remainder lo hi n)
  | none => t.cast (Float.ofInt n)

end ChannelType

namespace Block

variable {α : Type}

/-- The greatest number of dimensions. -/
def dimensionLimit : Nat := 64

/-- The lengths of nested arrays, as their first items have them; nothing when there are too many
dimensions. -/
def shapeOf? : Nat → Json → Option (List Nat)
  | fuel + 1, .arr values =>
    match values with
    | [] => some [0]
    | first :: _ => (shapeOf? fuel first).map fun rest ↦ values.length :: rest
  | 0, .arr _ => none
  | _, _ => some []

/-- Whether nested arrays have the given lengths throughout. -/
def hasShape : List Nat → Json → Bool
  | [], .arr _ => false
  | [], _ => true
  | n :: rest, .arr values => values.length == n && values.all (hasShape rest)
  | _ :: _, _ => false

/-- The values at the bottom of nested arrays, in order. -/
def leaves : Nat → Json → List Json
  | fuel + 1, .arr values => values.flatMap (leaves fuel)
  | _, value => [value]

/-- Whether a value is a text that holds no number. -/
def isWord : Json → Bool
  | .str s => (Decimal.readFloat? s).isNone
  | _ => false

/-- The place in memory of an index into an array of the given shape. -/
def place (shape : List Nat) (index : List Nat) : Nat :=
  (shape.zip index).foldl (fun place (size, i) ↦ place * size + i) 0

/-- The array that nested lists of numbers denote; a failure when they are of unequal lengths. -/
def ofJson (t : ChannelType) (value : Json) : Except Fault (Block Float) :=
  let values := leaves (dimensionLimit + 1) value
  match values.any isWord, shapeOf? dimensionLimit value with
  | false, some shape =>
    if !hasShape shape value then .error (.value .badValue)
    else do
      let samples ← values.mapM t.store
      let memory := samples.toArray
      pure { shape, sample := fun index ↦ memory.getD (place shape index) (.whole 0) }
  | _, _ => .error (.value .badValue)

/-- The index at a place in memory of an array of the given shape. -/
def indexAt : List Nat → Nat → List Nat
  | [], _ => []
  | _ :: rest, k => let size := rest.foldl (· * ·) 1; k / size :: indexAt rest (k % size)

/-- An array as bands of one row each: its first dimension counts the bands, and all others the
columns. -/
def bands? (a : Block α) : Option (Raster α) :=
  match a.shape with
  | n :: rest =>
    some {
      bands := n
      rows := 1
      cols := rest.foldl (· * ·) 1
      sample := fun b _ x ↦ a.sample (b :: indexAt rest x) }
  | [] => none

/-- Nested lists of the given lengths, with the value for each place in memory at the bottom. -/
def nested (value : Nat → Json) : List Nat → Nat → Json
  | [], k => value k
  | n :: rest, k => Json.ofList (fun i ↦ nested value rest (k * n + i)) (List.range n)

/-- An array as nested lists. -/
def toNested (f : Sample α → Json) (a : Block α) : Json :=
  nested (fun k ↦ f (a.sample (indexAt a.shape k))) a.shape 0

/-- Bands of one row each as an array whose other dimensions are given. -/
def ofBands (r : Raster α) (shape : List Nat) : Block α where
  shape := r.bands :: shape
  sample
    | b :: index => r.sample b 0 (place shape index)
    | [] => .whole 0

end Block

namespace Raster

/-- A raster whose samples are written out in one list: bands, then rows, then columns. -/
def ofList (t : ChannelType) (bands rows cols : Nat) (values : Json) :
    Except Fault (Raster Float) := do
  let block ← Block.ofJson t values
  let count := block.shape.foldl (· * ·) 1
  if count ≠ bands * rows * cols then throw (.value .badValue)
  let samples := ((List.range count).map fun k ↦ block.sample (Block.indexAt block.shape k)).toArray
  pure (ofArray bands rows cols samples)

/-- A raster whose bands hold one value each. -/
def ofFill (t : ChannelType) (rows cols : Nat) (values : List Json) :
    Except Fault (Raster Float) := do
  Raster.checkSize [values.length, rows, cols]
  let samples ← values.mapM t.store
  let memory := samples.toArray
  pure { bands := values.length, rows, cols, sample := fun b _ _ ↦ memory.getD b (.whole 0) }

/-- The coefficients of a linear pattern: for columns, rows and bands, a constant, and the number
that remainders are taken of. -/
structure Pattern where
  col : Int
  row : Int
  band : Int
  start : Int
  modulus : Int

/-- The value of a pattern at a band, a row and a column. -/
def Pattern.value (p : Pattern) (b y x : Nat) : Int :=
  if p.modulus = 0 then 0
  else Int.fmod (p.col * x + p.row * y + p.band * b + p.start) p.modulus

/-- A raster that repeats a linear pattern. -/
def ofPattern (t : ChannelType) (bands rows cols : Nat) (p : Pattern) : Raster Float where
  bands := bands
  rows := rows
  cols := cols
  sample b y x := t.wrap (p.value b y x)

/-- A sample as data, after it is cast to a channel type. -/
def sampleToJson (t : ChannelType) (s : Sample Float) : Json :=
  match s.cast t with
  | .whole n => if t = .bool then .bool (n != 0) else .int n
  | .real x => .real x

/-- A raster as three-fold nested lists of numbers of a channel type. -/
def toJson (t : ChannelType) (r : Raster Float) : Json :=
  Json.ofList (fun b ↦ Json.ofList (fun y ↦
    Json.ofList (fun x ↦ sampleToJson t (r.sample b y x)) (List.range r.cols))
    (List.range r.rows)) (List.range r.bands)

end Raster

end QuadMosaic
