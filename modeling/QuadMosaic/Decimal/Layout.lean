import QuadMosaic.Decimal.Shortest

/-!
# The text of a double

The shortest digits are laid out positionally while the leading digit has a power of ten from
`-4` to `15`, and with an exponent of at least two digits otherwise.  The spelling of the values
that have no digits is left to the format.
-/

namespace QuadMosaic

/-- The spelling of the values without digits. -/
structure Spelling where
  nan : String
  infinity : String

namespace Decimal

/-- The spelling used inside messages. -/
def plainSpelling : Spelling := ⟨"nan", "inf"⟩

/-- The spelling used in data files. -/
def dataSpelling : Spelling := ⟨"NaN", "Infinity"⟩

/-- The decimal digits of `n`, padded with zeros on the left to `width`. -/
def padded (width n : Nat) : List Char :=
  let ds := Nat.toDigits 10 n
  List.replicate (width - ds.length) '0' ++ ds

/-- A power of ten after the letter `e`: a sign and at least two digits. -/
def exponentText (p : Int) : List Char :=
  'e' :: (if p < 0 then '-' else '+') :: padded 2 p.natAbs

/-- The text of a positive decimal. -/
def layout (d : Decimal) : List Char :=
  let ds := Nat.toDigits 10 d.digits
  let lead : Int := (ds.length : Int) - 1 + d.exponent
  if -4 ≤ lead ∧ lead < 16 then
    if 0 ≤ d.exponent then ds ++ List.replicate d.exponent.toNat '0' ++ ['.', '0']
    else if 0 ≤ lead then ds.take (lead + 1).toNat ++ '.' :: ds.drop (lead + 1).toNat
    else '0' :: '.' :: (List.replicate (-lead - 1).toNat '0' ++ ds)
  else
    match ds with
    | [] => []
    | [c] => c :: exponentText lead
    | c :: rest => c :: '.' :: (rest ++ exponentText lead)

/-- The text of a double in a given spelling. -/
def floatText (spelling : Spelling) (x : Float) : String :=
  match Binary64.ofFloat x with
  | .nan => spelling.nan
  | .infinite negative => (if negative then "-" else "") ++ spelling.infinity
  | .finite negative m e =>
    (if negative then "-" else "") ++
      (if m = 0 then "0.0" else String.ofList (shortest m e).layout)

end Decimal

end QuadMosaic
