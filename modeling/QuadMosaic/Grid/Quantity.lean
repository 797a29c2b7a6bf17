import QuadMosaic.Decimal.Reading
import QuadMosaic.Grid.Coordinate

/-!
# Numbers as they are written

A number typed by hand is whole, has a fraction, or is a truth value that counts as zero or one.
Calculating with whole numbers is exact; as soon as a number with a fraction takes part, the result
is a double.  Comparisons are always exact.
-/

namespace QuadMosaic

/-- A number as it is written. -/
inductive Quantity
  | flag (b : Bool)
  | whole (n : Int)
  | real (x : Float)
  deriving Repr

namespace Quantity

/-- The integer that a quantity without a fraction is. -/
def whole? : Quantity → Option Int
  | flag b => some (if b then 1 else 0)
  | whole n => some n
  | real _ => none

/-- The double nearest to a quantity. -/
def toFloat (q : Quantity) : Float :=
  match q with
  | real x => x
  | _ => Float.ofInt (q.whole?.getD 0)

/-- The double nearest to a quantity; a failure when it lies beyond all doubles. -/
def toDouble (q : Quantity) : Except Fault Float :=
  match q with
  | real x => .ok x
  | _ => Scalar.ofWhole (q.whole?.getD 0)

/-- A calculation that is exact on whole numbers. -/
def combine (exact : Int → Int → Int) (rounded : Float → Float → Float) (p q : Quantity) :
    Quantity :=
  match p.whole?, q.whole? with
  | some m, some n => whole (exact m n)
  | _, _ => real (rounded p.toFloat q.toFloat)

/-- Whether an integer is less than a double. -/
def intBelow (n : Int) (x : Float) : Bool :=
  match Scalar.ceil x with
  | .whole above => n < above
  | .infinite negative => !negative
  | .undefined => false

/-- Whether a double is less than an integer. -/
def realBelow (x : Float) (n : Int) : Bool :=
  match Scalar.floor x with
  | .whole below => below < n
  | .infinite negative => negative
  | .undefined => false

/-- Whether a quantity is less than another one. -/
def below (p q : Quantity) : Bool :=
  match p.whole?, q.whole? with
  | some m, some n => m < n
  | some m, none => intBelow m q.toFloat
  | none, some n => realBelow p.toFloat n
  | none, none => p.toFloat < q.toFloat

/-- Whether a quantity is at most another one; never so for what is no number. -/
def atMost (p q : Quantity) : Bool := !(below q p) && !p.toFloat.isNaN && !q.toFloat.isNaN

/-- The quotient of two doubles rounded down, for a divisor that is not zero. -/
def floorQuotient (x y : Float) : Float :=
  match Binary64.ofFloat x, Binary64.ofFloat y with
  | .finite .., .finite .. =>
    let exact := (Binary64.ofFloat x).toRat / (Binary64.ofFloat y).toRat
    if exact == 0 then x / y else Float.ofInt exact.floor
  | .finite .., .infinite _ => if x * y < 0.0 then -1.0 else x / y
  | _, _ => 0.0 / 0.0

/-- Two doubles as multiples of the smaller one of their last places. -/
def inCommonUnits (x y : Float) : Int × Int :=
  match Binary64.ofFloat x, Binary64.ofFloat y with
  | .finite s m e, .finite t n f =>
    let unit := min e f
    (Binary64.signed s (m * Nat.pow 2 (e - unit).toNat),
      Binary64.signed t (n * Nat.pow 2 (f - unit).toNat))
  | _, _ => (0, 1)

/-- A quantity as data. -/
def toJson : Quantity → Json
  | flag b => .bool b
  | whole n => .int n
  | real x => .real x

/-- The quantity that a value is. -/
def ofJson : Json → Except Fault Quantity
  | .bool b => .ok (flag b)
  | .int n => .ok (whole n)
  | .real x => .ok (real x)
  | _ => .error (.value .badKind)

/-- The quantity that a value is, a text being read as a double. -/
def read : Json → Except Fault Quantity
  | .str s =>
    match Decimal.readFloat? s with
    | some x => .ok (real x)
    | none => .error (.value .badValue)
  | value => ofJson value

instance instCoordinate : Coordinate Quantity where
  zero := whole 0
  add := combine (· + ·) (· + ·)
  sub := combine (· - ·) (· - ·)
  neg q := combine (fun n _ ↦ -n) (fun x _ ↦ -x) q q
  mul := combine (· * ·) (· * ·)
  max p q := if below p q then q else p
  min p q := if below q p then q else p
  le p q := atMost p q = true
  lt p q := below p q = true
  decideLE p q := inferInstanceAs (Decidable (atMost p q = true))
  decideLT p q := inferInstanceAs (Decidable (below p q = true))
  ofInt := whole
  floorDiv := combine Int.fdiv floorQuotient
  truncate q :=
    match q, Scalar.truncate q.toFloat with
    | real _, .whole n => n
    | _, _ => q.whole?.getD 0
  index? := whole?
  inUnits p q :=
    match p.whole?, q.whole? with
    | some m, some n => (m, n)
    | _, _ => inCommonUnits p.toFloat q.toFloat
  toScalar q :=
    match q with
    | real x => .ok (Scalar.ofFloat x)
    | _ => Scalar.ofWhole (q.whole?.getD 0)
  toJson := toJson

instance instScalar : Scalar Quantity where
  div p q := real (p.toFloat / q.toFloat)
  ofInt := whole
  ofFloat := real
  lt := below
  eq p q := atMost p q && atMost q p
  isNaN q := q.toFloat.isNaN
  floor q := q.whole?.elim (Scalar.floor q.toFloat) Rounded.whole
  ceil q := q.whole?.elim (Scalar.ceil q.toFloat) Rounded.whole
  nearest q := q.whole?.elim (Scalar.nearest q.toFloat) Rounded.whole
  toSingle q := real (Scalar.toSingle q.toFloat)
  toHalf q := real (Scalar.toHalf q.toFloat)

end Quantity

end QuadMosaic
