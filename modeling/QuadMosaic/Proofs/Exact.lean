import QuadMosaic.Proofs.Signs

/-!
# Exact numbers

The formulas of pixels are written for every kind of number.  Here is one in which they are not
rounded and still meet the values that mark missing data: a rational, an infinity, or no number.
Zero has no sign.

`nearestRat`, the rounding of the last step, keeps the order and takes an integer to itself.
-/

namespace QuadMosaic

/-- A rational, an infinity, or no number. -/
inductive Exact
  | number (q : Rat)
  | infinite (negative : Bool)
  | undefined
  deriving DecidableEq, Repr

namespace Exact

/-- The sum; infinities of different signs have none. -/
def add : Exact → Exact → Exact
  | number p, number q => number (p + q)
  | infinite m, infinite n => if m = n then infinite m else undefined
  | infinite m, number _ | number _, infinite m => infinite m
  | undefined, _ | _, undefined => undefined

/-- The number with the other sign. -/
def neg : Exact → Exact
  | number q => number (-q)
  | infinite n => infinite !n
  | undefined => undefined

/-- The product; zero and an infinity have none. -/
def mul : Exact → Exact → Exact
  | number p, number q => number (p * q)
  | infinite m, infinite n => infinite (m ^^ n)
  | infinite m, number q | number q, infinite m =>
    if q = 0 then undefined else infinite (m ^^ decide (q < 0))
  | undefined, _ | _, undefined => undefined

/-- The quotient; zeros have none, nor have infinities. -/
def div : Exact → Exact → Exact
  | number p, number q =>
    if q ≠ 0 then number (p / q) else if p = 0 then undefined else infinite (decide (p < 0))
  | infinite m, number q => infinite (m ^^ decide (q < 0))
  | number _, infinite _ => number 0
  | infinite _, infinite _ | undefined, _ | _, undefined => undefined

/-- Whether one number is less than another. -/
def lt : Exact → Exact → Bool
  | number p, number q => decide (p < q)
  | infinite m, infinite n => m && !n
  | infinite m, number _ => m
  | number _, infinite n => !n
  | undefined, _ | _, undefined => false

/-- Whether two numbers are equal. -/
def eq : Exact → Exact → Bool
  | number p, number q => decide (p = q)
  | infinite m, infinite n => m == n
  | _, _ => false

/-- The number rounded by a rule for rationals. -/
def roundWith (rule : Rat → Int) : Exact → Rounded
  | number q => .whole (rule q)
  | infinite n => .infinite n
  | undefined => .undefined

/-- What a double holds. -/
def ofBinary64 : Binary64 → Exact
  | .infinite n => infinite n
  | .nan => undefined
  | x => number x.toRat

instance instScalar : Scalar Exact where
  add := add
  sub x y := add x (neg y)
  mul := mul
  div := div
  neg := neg
  ofInt n := number n
  ofFloat x := ofBinary64 (Binary64.ofFloat x)
  lt := lt
  eq := eq
  isNaN x := decide (x = undefined)
  floor := roundWith Rat.floor
  ceil := roundWith Rat.ceil
  nearest := roundWith Scalar.nearestRat
  toSingle x := x
  toHalf x := x

variable {p q : Rat}

@[simp] theorem zero_eq : (Scalar.zero : Exact) = number 0 := rfl

@[simp] theorem one_eq : (Scalar.one : Exact) = number 1 := rfl

@[simp] theorem number_sub_number : number p - number q = number (p - q) := by
  rw [sub_eq_add_neg]
  rfl

@[simp] theorem number_mul_number : number p * number q = number (p * q) := rfl

theorem number_div_number (h : q ≠ 0) : number p / number q = number (p / q) := if_pos h

@[simp] theorem lt_number : Scalar.lt (number p) (number q) = decide (p < q) := rfl

@[simp] theorem isNaN_number : Scalar.isNaN (number q) = false := rfl

@[simp] theorem nearest_number : Scalar.nearest (number q) = .whole (Scalar.nearestRat q) := rfl

end Exact

namespace Scalar

variable {p q : Rat}

theorem floor_le_nearestRat (q : Rat) : q.floor ≤ nearestRat q := by
  unfold nearestRat
  grind

theorem nearestRat_le_floor_add_one (q : Rat) : nearestRat q ≤ q.floor + 1 := by
  unfold nearestRat
  grind

/-- Rounding to the nearest integer keeps the order. -/
theorem nearestRat_mono (h : p ≤ q) : nearestRat p ≤ nearestRat q := by
  rcases Int.lt_or_eq_of_le (Rat.floor_monotone h) with hlt | heq
  · calc nearestRat p ≤ p.floor + 1 := nearestRat_le_floor_add_one p
      _ ≤ q.floor := hlt
      _ ≤ nearestRat q := floor_le_nearestRat q
  · -- in one unit interval the rounding only asks on which side of the middle a number lies
    have htwice : 2 * (p - p.floor) ≤ 2 * (q - p.floor) := by linarith
    unfold nearestRat
    rw [← heq]
    grind

end Scalar

end QuadMosaic
