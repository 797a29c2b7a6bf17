import QuadMosaic.Decimal.Layout

/-!
# Decimals of a given precision

A double is written with a given number of places after the point, with a given number of digits and
a power of ten, or with whichever of the two is shorter.
-/

namespace QuadMosaic.Decimal

/-- The integer nearest to `n / d`, a half going to the even neighbour. -/
def roundQuotient (n d : Nat) : Nat :=
  let below := n / d
  let twice := 2 * (n % d)
  if twice < d then below
  else if d < twice then below + 1
  else if below % 2 = 0 then below else below + 1

/-- The value `m · 2 ^ e` in units of `10 ^ -places`, rounded from its exact value. -/
def inUnits (m : Nat) (e places : Int) : Nat :=
  roundQuotient (m * Nat.pow 2 e.toNat * Nat.pow 10 places.toNat)
    (Nat.pow 2 (-e).toNat * Nat.pow 10 (-places).toNat)

/-- Digits before and after a point, which is left out when no digit follows it, unless it is to be
kept. -/
def pointed (keep : Bool) (whole fraction : List Char) : List Char :=
  if fraction = [] ∧ ¬ keep then whole else whole ++ '.' :: fraction

/-- The first `places + 1` digits of `m · 2 ^ e`, rounded, and the power of ten of the first one. -/
def leadingDigits (places m : Nat) (e : Int) : List Char × Int :=
  if m = 0 then (List.replicate (places + 1) '0', 0)
  else
    let lead := leadingPower (m * Nat.pow 2 e.toNat) (Nat.pow 2 (-e).toNat)
    let ds := padded (places + 1) (inUnits m e (places - lead))
    (ds.take (places + 1), if places + 1 < ds.length then lead + 1 else lead)

/-- The digits of `m · 2 ^ e` with a number of places after the point. -/
def fixedDigits (keep : Bool) (places m : Nat) (e : Int) : List Char :=
  let ds := padded (places + 1) (inUnits m e places)
  pointed keep (ds.take (ds.length - places)) (ds.drop (ds.length - places))

/-- The digits of `m · 2 ^ e` with one digit before the point, a number of places after it, and a
power of ten. -/
def exponentDigits (keep : Bool) (places m : Nat) (e : Int) : List Char :=
  let (ds, lead) := leadingDigits places m e
  pointed keep (ds.take 1) (ds.drop 1) ++ exponentText lead

/-- Digits without the zeros at their end. -/
def withoutZeros (ds : List Char) : List Char := (ds.reverse.dropWhile (· = '0')).reverse

/-- The first `places + 1` digits of `m · 2 ^ e`: with a point as long as their power of ten is at
least `-4` and the last one not greater than one, with a power of ten otherwise.  Zeros at the end
of the fraction are left out together with the point, unless they are to be kept. -/
def generalDigits (keep : Bool) (places m : Nat) (e : Int) : List Char :=
  let (ds, lead) := leadingDigits places m e
  let ending (fraction : List Char) : List Char := if keep then fraction else withoutZeros fraction
  if lead < -4 ∨ places < lead then
    pointed keep (ds.take 1) (ending (ds.drop 1)) ++ exponentText lead
  else if lead < 0 then
    pointed keep ['0'] (ending (List.replicate (-lead - 1).toNat '0' ++ ds))
  else pointed keep (ds.take (lead + 1).toNat) (ending (ds.drop (lead + 1).toNat))

end QuadMosaic.Decimal
