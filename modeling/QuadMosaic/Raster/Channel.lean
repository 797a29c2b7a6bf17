import QuadMosaic.Scalar

/-!
# Channel types and samples

A sample is one channel of one pixel.  Channels of integers hold whole numbers within their limits;
channels of fractions hold numbers.  Main statement: `ChannelType.settle_mem`, a
number cast to an integer channel stays within its limits.
-/

namespace QuadMosaic

/-- The type of the channels of a raster. -/
inductive ChannelType
  | bool | int8 | uint8 | int16 | uint16 | int32 | uint32 | int64 | uint64
  | float16 | float32 | float64
  deriving DecidableEq, Repr, Inhabited

/-- One channel of one pixel. -/
inductive Sample (α : Type)
  | whole (n : Int)
  | real (x : α)
  deriving DecidableEq, Repr, Inhabited

/-- The integers that doubles hold without rounding lie between this and its negative. -/
def Sample.exactLimit : Int := 9007199254740992

namespace ChannelType

/-- All channel types. -/
def all : List ChannelType :=
  [bool, int8, uint8, int16, uint16, int32, uint32, int64, uint64, float16, float32, float64]

/-- The name of a channel type. -/
def name : ChannelType → String
  | bool => "bool"
  | int8 => "int8"
  | uint8 => "uint8"
  | int16 => "int16"
  | uint16 => "uint16"
  | int32 => "int32"
  | uint32 => "uint32"
  | int64 => "int64"
  | uint64 => "uint64"
  | float16 => "float16"
  | float32 => "float32"
  | float64 => "float64"

/-- The channel type of a name. -/
def ofName? (name : String) : Option ChannelType := all.find? (·.name = name)

/-- The words and letters that stand for a channel type as well. -/
def aliases : List (String × ChannelType) :=
  [("?", bool), ("b1", bool), ("b", int8), ("byte", int8), ("i1", int8), ("B", uint8),
    ("ubyte", uint8), ("u1", uint8), ("h", int16), ("short", int16), ("i2", int16),
    ("H", uint16), ("ushort", uint16), ("u2", uint16), ("i", int32), ("intc", int32),
    ("i4", int32), ("I", uint32), ("uintc", uint32), ("u4", uint32), ("l", int64), ("q", int64),
    ("int", int64), ("long", int64), ("longlong", int64), ("intp", int64), ("i8", int64),
    ("L", uint64), ("Q", uint64), ("uint", uint64), ("ulong", uint64), ("ulonglong", uint64),
    ("uintp", uint64), ("u8", uint64), ("e", float16), ("half", float16), ("f2", float16),
    ("f", float32), ("single", float32), ("f4", float32), ("d", float64), ("double", float64),
    ("float", float64), ("f8", float64)]

/-- The channel type that a word stands for; a mark of the order of bytes in front of a letter says
nothing. -/
def ofWord? (word : String) : Option ChannelType :=
  let bare :=
    match word.toList with
    | c :: rest =>
      if (c = '<' ∨ c = '>' ∨ c = '=' ∨ c = '|') ∧ rest.length ≤ 2 then String.ofList rest else word
    | [] => word
  (ofName? word).orElse fun _ ↦ (aliases.find? (·.1 = bare)).map (·.2)

/-- The least and the greatest value of a channel of integers. -/
def limits? : ChannelType → Option (Int × Int)
  | int8 => some (-128, 127)
  | uint8 => some (0, 255)
  | int16 => some (-32768, 32767)
  | uint16 => some (0, 65535)
  | int32 => some (-2147483648, 2147483647)
  | uint32 => some (0, 4294967295)
  | int64 => some (-9223372036854775808, 9223372036854775807)
  | uint64 => some (0, 18446744073709551615)
  | bool | float16 | float32 | float64 => none

variable {α : Type} [Scalar α]

/-- The value that means full intensity. -/
def full (t : ChannelType) : α :=
  match t.limits? with
  | some (_, hi) => Scalar.ofInt hi
  | none => Scalar.one

/-- An integer kept within limits. -/
def clampInt (lo hi n : Int) : Int := if n < lo then lo else if hi < n then hi else n

/-- A rounded number kept within limits.  What is no number becomes zero, in wide signed channels
the least value.  The greatest value of a channel of 64 bits is no double, and the double next above
it wraps round to the least value. -/
def settle (lo hi : Int) : Rounded → Int
  | .whole n => if Sample.exactLimit < hi ∧ hi < n then lo else clampInt lo hi n
  | .infinite negative => if negative ∨ Sample.exactLimit < hi then lo else hi
  | .undefined => if lo ≤ -2147483648 then lo else 0

/-- One for yes and zero for no. -/
def ofBool (b : Bool) : Int := if b then 1 else 0

/-- A number as a sample of a channel type: rounded and kept within the limits of integers, rounded
to the precision of narrow fractions; a channel of truth values tells zero from all else. -/
def cast (t : ChannelType) (x : α) : Sample α :=
  match t.limits? with
  | some (lo, hi) => .whole (settle lo hi (Scalar.nearest x))
  | none =>
    if t = bool then .whole (ofBool (!Scalar.eq x Scalar.zero))
    else if t = float16 then .real (Scalar.toHalf x)
    else if t = float32 then .real (Scalar.toSingle x)
    else .real x

theorem clampInt_mem {lo hi n : Int} (h : lo ≤ hi) :
    lo ≤ clampInt lo hi n ∧ clampInt lo hi n ≤ hi := by
  unfold clampInt
  split
  · exact ⟨Int.le_refl _, h⟩
  · split
    · exact ⟨h, Int.le_refl _⟩
    · omega

/-- A number settled into an integer channel stays within its limits. -/
theorem settle_mem {lo hi : Int} (h : lo ≤ hi) (h₀ : lo ≤ 0) (h₁ : 0 ≤ hi) (r : Rounded) :
    lo ≤ settle lo hi r ∧ settle lo hi r ≤ hi := by
  cases r with
  | whole n =>
    simp only [settle]
    split
    · exact ⟨Int.le_refl _, h⟩
    · exact clampInt_mem h
  | infinite negative =>
    simp only [settle]
    split
    · exact ⟨Int.le_refl _, h⟩
    · exact ⟨h, Int.le_refl _⟩
  | undefined =>
    simp only [settle]
    split
    · exact ⟨Int.le_refl _, h⟩
    · exact ⟨h₀, h₁⟩

theorem clampInt_eq_self {lo hi n : Int} (h : lo ≤ n) (h' : n ≤ hi) : clampInt lo hi n = n := by
  unfold clampInt
  rw [if_neg (by omega), if_neg (by omega)]

end ChannelType

namespace Sample

variable {α : Type} [Scalar α]

/-- The number that a sample is. -/
def toScalar : Sample α → α
  | whole n => Scalar.ofInt n
  | real x => x

/-- Whether a sample is greater than zero. -/
def isPositive : Sample α → Bool
  | whole n => 0 < n
  | real x => Scalar.lt Scalar.zero x

/-- The greater of two samples; no number as soon as one of them is none. -/
def join : Sample α → Sample α → Sample α
  | whole m, whole n => whole (max m n)
  | s, t => real (Scalar.join s.toScalar t.toScalar)

/-- A sample as accumulated: integers beyond what a double holds are rounded. -/
def widened : Sample α → Sample α
  | whole n => if n.natAbs ≤ exactLimit then whole n else real (Scalar.ofInt n)
  | real x => real x

/-- A sample turned into one of a channel type. -/
def cast (t : ChannelType) : Sample α → Sample α
  | whole n =>
    match t.limits? with
    | some (lo, hi) => whole (ChannelType.clampInt lo hi n)
    | none => t.cast (Scalar.ofInt n)
  | real x => t.cast x

end Sample

end QuadMosaic
