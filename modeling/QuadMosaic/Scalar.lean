import QuadMosaic.Decimal.Binary64
import QuadMosaic.Fault

/-!
# The numbers that coordinates and pixel values are made of

The mosaic's arithmetic is written once for every kind of number that has the operations below.  It
runs on doubles; the rationals are the exact reading of the same formulas, in which no rounding
happens and every value is finite.
-/

namespace QuadMosaic

/-- A kind of number with the operations that the mosaic needs. -/
class Scalar (α : Type) extends Add α, Sub α, Mul α, Div α, Neg α where
  /-- The number nearest to an integer. -/
  ofInt : Int → α
  /-- The number nearest to a double. -/
  ofFloat : Float → α
  /-- Whether one number is less than another; never so for what is no number. -/
  lt : α → α → Bool
  /-- Whether two numbers are equal; never so for what is no number. -/
  eq : α → α → Bool
  /-- Whether a value is no number. -/
  isNaN : α → Bool
  /-- The integer below. -/
  floor : α → Rounded
  /-- The integer above. -/
  ceil : α → Rounded
  /-- The nearest integer, a half going to the even neighbour. -/
  nearest : α → Rounded
  /-- The nearest number of single precision. -/
  toSingle : α → α
  /-- The nearest number of half precision. -/
  toHalf : α → α

namespace Scalar

instance instFloat : Scalar Float where
  ofInt := Float.ofInt
  ofFloat x := x
  lt x y := x < y
  eq x y := x == y
  isNaN := Float.isNaN
  floor x := (Binary64.ofFloat x).roundWith Binary64.floorShift
  ceil x := (Binary64.ofFloat x).roundWith fun n k ↦ -Binary64.floorShift (-n) k
  nearest x := (Binary64.ofFloat x).roundWith Binary64.nearestShift
  toSingle := Binary64.narrowed 24 (-149) 128
  toHalf := Binary64.narrowed 11 (-24) 16

/-- The integer nearest to a rational, a half going to the even neighbour. -/
def nearestRat (q : Rat) : Int :=
  let below := q.floor
  let twice := 2 * (q - below)
  if twice < 1 then below else if 1 < twice then below + 1
  else if below % 2 = 0 then below else below + 1

instance instRat : Scalar Rat where
  ofInt n := n
  ofFloat x := (Binary64.ofFloat x).toRat
  lt x y := decide (x < y)
  eq x y := decide (x = y)
  isNaN _ := false
  floor x := .whole x.floor
  ceil x := .whole x.ceil
  nearest x := .whole (nearestRat x)
  toSingle x := x
  toHalf x := x

section

variable {α : Type} [Scalar α]

/-- The number zero. -/
def zero : α := ofInt 0

/-- The number one. -/
def one : α := ofInt 1

/-- Whether a value is a number and finite. -/
def isFinite (x : α) : Bool :=
  match floor x with
  | .whole _ => true
  | _ => false

/-- An integer as a number; a failure when it lies beyond all of them. -/
def ofWhole (n : Int) : Except Fault α :=
  if isFinite (ofInt n : α) then .ok (ofInt n) else .error (.value .outOfRange)

/-- The size of a number. -/
def abs (x : α) : α := if lt x zero then -x else x

/-- A number kept between two bounds; what is no number is left as it is. -/
def clamp (lo hi x : α) : α := if lt x lo then lo else if lt hi x then hi else x

/-- The first number unless the second is less. -/
def lesser (x y : α) : α := if lt y x then y else x

/-- The first number unless the second is greater. -/
def greater (x y : α) : α := if lt x y then y else x

/-- The greater of two numbers; no number as soon as one of them is none. -/
def join (x y : α) : α := if isNaN x then x else if isNaN y then y else greater x y

/-- The lesser of two numbers; no number as soon as one of them is none. -/
def meet (x y : α) : α := if isNaN x then x else if isNaN y then y else lesser x y

/-- The integer towards zero. -/
def truncate (x : α) : Rounded := if lt x zero then ceil x else floor x

/-- The integer that a rounding found; a failure when there is none. -/
def toInt : Rounded → Except Fault Int
  | .whole n => .ok n
  | .infinite _ => .error (.value .outOfRange)
  | .undefined => .error (.value .badValue)

end

end Scalar

end QuadMosaic
