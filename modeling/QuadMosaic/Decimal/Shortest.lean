import QuadMosaic.Decimal.Binary64

/-!
# The shortest decimal that reads back

The reals that round to a double form an interval around it, its ends included when the
significand is even.  A decimal with `n` digits lies in the interval only if one of the two
neighbours of the double on the grid of `n`-digit decimals does, so trying `n = 1, 2, …, 17` finds
the fewest digits; of two neighbours inside, the nearer is taken, and a tie goes to the even one.
-/

namespace QuadMosaic

/-- The decimal `digits · 10 ^ exponent`. -/
structure Decimal where
  digits : Nat
  exponent : Int
  deriving DecidableEq, Repr

namespace Decimal

/-- The number of decimal digits of `n`. -/
def digitCount (n : Nat) : Nat := (Nat.toDigits 10 n).length

/-- The power of ten of the leading digit of `num / den`, both positive. -/
def leadingPower (num den : Nat) : Int :=
  if den ≤ num then (digitCount (num / den) : Int) - 1
  else -(digitCount ((den + num - 1) / num - 1) : Int)

/-- Trailing zeros moved into the exponent, at most `fuel` of them. -/
def normalise : Nat → Decimal → Decimal
  | 0, d => d
  | fuel + 1, d =>
    if d.digits ≠ 0 ∧ d.digits % 10 = 0 then normalise fuel ⟨d.digits / 10, d.exponent + 1⟩ else d

/-- The interval of a double in units of a quarter of its last place. -/
structure Neighbourhood where
  lower : Nat
  centre : Nat
  upper : Nat
  /-- Whether the ends belong to the interval. -/
  closed : Bool
  deriving Repr

/-- The neighbourhood of a significand; below a power of two the spacing is half as wide. -/
def neighbourhood (significand : Nat) (exponent : Int) : Neighbourhood where
  lower := if significand = 4503599627370496 ∧ -1074 < exponent then 4 * significand - 1
    else 4 * significand - 2
  centre := 4 * significand
  upper := 4 * significand + 2
  closed := significand % 2 = 0

/-- The candidate among `d` and `d + 1` on the grid of step `a` that lies in the neighbourhood
measured in units of `b`, the nearer one if both do. -/
def pick (r : Neighbourhood) (a b d : Nat) : Option Nat :=
  let inside (c : Nat) : Bool :=
    if r.closed then r.lower * b ≤ c * a && c * a ≤ r.upper * b
    else r.lower * b < c * a && c * a < r.upper * b
  let below := r.centre * b - d * a
  let above := (d + 1) * a - r.centre * b
  match inside d, inside (d + 1) with
  | true, true =>
    if below < above then some d
    else if above < below then some (d + 1)
    else if d % 2 = 0 then some d else some (d + 1)
  | true, false => some d
  | false, true => some (d + 1)
  | false, false => none

/-- The shortest decimal for `significand · 2 ^ exponent`, a positive double. -/
def shortest (significand : Nat) (exponent : Int) : Decimal :=
  let r := neighbourhood significand exponent
  let unit := exponent - 2
  let lead := leadingPower (r.centre * Nat.pow 2 unit.toNat) (Nat.pow 2 (-unit).toNat)
  let attempt (n : Nat) : Option Decimal :=
    let power := lead - n + 1
    let a := Nat.pow 10 power.toNat * Nat.pow 2 (-unit).toNat
    let b := Nat.pow 2 unit.toNat * Nat.pow 10 (-power).toNat
    (pick r a b (r.centre * b / a)).map fun d ↦ ⟨d, power⟩
  normalise 20 (((List.range' 1 17).findSome? attempt).getD ⟨significand, 0⟩)

end Decimal

end QuadMosaic
