import QuadMosaic.Text.Blank
import QuadMosaic.Text.DecimalDigit

/-!
# Reading numbers typed as text

An integer or a decimal number may stand between blanks, may carry a sign, may use the digits of
any numbering system, and may hold single underscores between digits.
-/

namespace QuadMosaic.Decimal

open QuadMosaic.Text

/-- The double nearest to `± digits · 10 ^ exponent`. -/
def toFloat (negative : Bool) (digits : Nat) (exponent : Int) : Float :=
  let size : Int := (Nat.toDigits 10 digits).length + exponent
  let x :=
    if digits = 0 ∨ size < -400 then 0.0
    else if 400 < size then 1.0 / 0.0
    else Float.ofScientific digits (exponent < 0) exponent.natAbs
  if negative then -x else x

/-- The digits at the head of a text, single underscores between two digits skipped, and the
rest. -/
def takeDigits : List Char → List Nat × List Char
  | [] => ([], [])
  | c :: rest =>
    match decimalDigit? c with
    | none => ([], c :: rest)
    | some d =>
      let (ds, after) := afterDigit rest
      (d :: ds, after)
where
  /-- What follows a digit: another one, or an underscore and another one. -/
  afterDigit : List Char → List Nat × List Char
    | [] => ([], [])
    | c :: rest =>
      match decimalDigit? c with
      | some d =>
        let (ds, after) := afterDigit rest
        (d :: ds, after)
      | none =>
        match rest with
        | [] => ([], [c])
        | c' :: rest' =>
          match decimalDigit? c' with
          | none => ([], c :: c' :: rest')
          | some d =>
            if c = '_' then
              let (ds, after) := afterDigit rest'
              (d :: ds, after)
            else ([], c :: c' :: rest')

/-- The number that a list of digits denotes. -/
def ofDigits (ds : List Nat) : Nat := ds.foldl (fun n d ↦ 10 * n + d) 0

/-- A sign, when there is one, and the rest. -/
def takeSign : List Char → Bool × List Char
  | '-' :: rest => (true, rest)
  | '+' :: rest => (false, rest)
  | s => (false, s)

/-- The most digits that a text may hold to be read as an integer. -/
def integerDigitLimit : Nat := 4300

/-- Whether a character may stand around a number: any blank that is not one of the four
separators of files, groups, records and units. -/
def isNumberBlank (c : Char) : Bool := isBlank c && !(0x1c ≤ c.toNat && c.toNat ≤ 0x1f)

/-- The characters of a number's text, the blanks that may stand around it left out. -/
def numberChars (s : String) : List Char :=
  ((s.toList.dropWhile isNumberBlank).reverse.dropWhile isNumberBlank).reverse

/-- The integer that a text denotes. -/
def readInt? (s : String) : Option Int :=
  let (negative, body) := takeSign (numberChars s)
  match takeDigits body with
  | (d :: ds, []) =>
    if integerDigitLimit < ds.length + 1 then none
    else some (if negative then -(ofDigits (d :: ds) : Int) else ofDigits (d :: ds))
  | _ => none

/-- The exponent at the head of a text, and the rest; nothing when it lacks digits. -/
def takeExponent? : List Char → Option (Int × List Char)
  | c :: rest =>
    if c = 'e' ∨ c = 'E' then
      let (negative, body) := takeSign rest
      match takeDigits body with
      | ([], _) => none
      | (ds, after) => some (if negative then -(ofDigits ds : Int) else ofDigits ds, after)
    else some (0, c :: rest)
  | [] => some (0, [])

/-- A point and the digits after it, when there is one, and the rest. -/
def takeFraction : List Char → List Nat × List Char
  | '.' :: rest => takeDigits rest
  | s => ([], s)

/-- The double that a text denotes. -/
def readFloat? (s : String) : Option Float :=
  let (negative, body) := takeSign (numberChars s)
  let word := String.ofList (body.map Char.toLower)
  if word = "inf" ∨ word = "infinity" then some (if negative then -(1.0 / 0.0) else 1.0 / 0.0)
  else if word = "nan" then some (0.0 / 0.0)
  else
    let (whole, rest) := takeDigits body
    let (fraction, rest') := takeFraction rest
    if whole = [] ∧ fraction = [] then none
    else
      match takeExponent? rest' with
      | some (e, []) => some (toFloat negative (ofDigits (whole ++ fraction)) (e - fraction.length))
      | _ => none

end QuadMosaic.Decimal
