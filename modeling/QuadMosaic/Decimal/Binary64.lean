/-!
# Double precision numbers taken apart

A finite double is a sign, a natural significand and a power of two.  Rounding to a whole number
is done exactly on those, so that every rounding rule is integer arithmetic.
-/

namespace QuadMosaic

/-- What a double holds: a finite value `± significand · 2 ^ exponent`, an infinity, or no
number. -/
inductive Binary64
  | finite (negative : Bool) (significand : Nat) (exponent : Int)
  | infinite (negative : Bool)
  | nan
  deriving DecidableEq, Repr

/-- A number rounded to an integer, when there is one. -/
inductive Rounded
  | whole (n : Int)
  | infinite (negative : Bool)
  | undefined
  deriving DecidableEq, Repr

namespace Binary64

/-- The bit that stands before the fraction of a significand and is not stored. -/
def hidden : Nat := 4503599627370496

/-- The parts of a double. -/
def ofFloat (x : Float) : Binary64 :=
  let bits := x.toBits.toNat
  let negative := decide (9223372036854775808 ≤ bits)
  let power : Nat := bits / hidden % 2048
  let fraction := bits % hidden
  if power = 2047 then (if fraction = 0 then infinite negative else nan)
  else if power = 0 then finite negative fraction (-1074)
  else finite negative (fraction + hidden) ((power : Int) - 1075)

/-- Whether a double has a minus sign. -/
def isNegative : Binary64 → Bool
  | finite negative _ _ | infinite negative => negative
  | nan => false

/-- A significand with its sign. -/
def signed (negative : Bool) (significand : Nat) : Int :=
  if negative then -(significand : Int) else significand

/-- The integer below `n / 2 ^ k`. -/
def floorShift (n : Int) (k : Nat) : Int := n / Nat.pow 2 k

/-- The integer next to `n / 2 ^ k`; a half goes to the even neighbour. -/
def nearestShift (n : Int) (k : Nat) : Int :=
  let unit : Int := Nat.pow 2 k
  let below := n / unit
  let twice := 2 * (n % unit)
  if twice < unit then below
  else if unit < twice then below + 1
  else if below % 2 = 0 then below else below + 1

/-- Rounding a double with a rule for `n / 2 ^ k`. -/
def roundWith (rule : Int → Nat → Int) : Binary64 → Rounded
  | finite negative m e =>
    .whole (if 0 ≤ e then signed negative m * Nat.pow 2 e.toNat
      else rule (signed negative m) (-e).toNat)
  | infinite negative => .infinite negative
  | nan => .undefined

/-- The exact value of a finite double, zero for the others. -/
def toRat : Binary64 → Rat
  | finite negative m e =>
    if 0 ≤ e then (signed negative m * Nat.pow 2 e.toNat : Int)
    else mkRat (signed negative m) (Nat.pow 2 (-e).toNat)
  | _ => 0

/-- Two to a power that is that of a double with full significand. -/
def powerOfTwo (k : Int) : Float := Float.ofBits (UInt64.ofNat ((k + 1023).toNat * hidden))

/-- The double nearest to `x` among those with `bits` binary digits, none of them worth less than
`2 ^ least`; a half goes to the even neighbour, and what reaches `2 ^ top` is infinite. -/
def narrowed (bits : Nat) (least top : Int) (x : Float) : Float :=
  match ofFloat x with
  | finite negative m e =>
    let unit := max ((Nat.log2 m : Int) + e + 1 - bits) least
    let units :=
      if unit ≤ e then m * Nat.pow 2 (e - unit).toNat else (nearestShift m (unit - e).toNat).toNat
    let size :=
      if top ≤ (Nat.log2 units : Int) + unit then 1.0 / 0.0
      else Float.ofNat units * powerOfTwo unit
    if negative then -size else size
  | _ => x

theorem twoPow_pos (k : Nat) : 0 < (Nat.pow 2 k : Int) :=
  Int.natCast_pos.2 (Nat.pow_pos (by decide))

end Binary64

end QuadMosaic
