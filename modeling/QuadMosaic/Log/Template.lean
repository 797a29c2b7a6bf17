import QuadMosaic.Decimal.Fixed
import QuadMosaic.Decimal.Reading
import QuadMosaic.Fault
import QuadMosaic.Json.Display
import QuadMosaic.Scalar

/-!
# Message templates

A template holds places for values: a percent sign, an optional key in parentheses, flags, a width,
a precision, and a letter that says how the value is shown.  A star in the place of the width or of
the precision takes the number from the values.  Two percent signs stand for one.
-/

namespace QuadMosaic

/-- How one value is shown. -/
structure Placeholder where
  /-- Whether the value stands at the left of its width. -/
  left : Bool := false
  /-- Whether a number without a minus sign gets a plus sign. -/
  plus : Bool := false
  /-- Whether a number without a minus sign gets a blank. -/
  blank : Bool := false
  /-- Whether a number is filled up with zeros. -/
  zero : Bool := false
  /-- Whether a number shows its base, or keeps its point. -/
  full : Bool := false
  width : Nat := 0
  precision : Option Nat := none
  letter : Char := 's'

namespace Placeholder

/-- A text filled up with blanks to the width of a placeholder. -/
def pad (p : Placeholder) (s : String) : String :=
  let blanks := String.ofList (List.replicate (p.width - s.length) ' ')
  if p.left then s ++ blanks else blanks ++ s

/-- The sign of a number. -/
def sign (p : Placeholder) (negative : Bool) : String :=
  if negative then "-" else if p.plus then "+" else if p.blank then " " else ""

/-- Digits after their sign and their base, filled up to the width of a placeholder: with zeros
before the digits, or with blanks. -/
def padNumber (p : Placeholder) (before digits : String) : String :=
  if p.zero && !p.left then
    before ++ String.ofList (List.replicate (p.width - (before.length + digits.length)) '0') ++
      digits
  else p.pad (before ++ digits)

/-- A text cut to the precision of a placeholder and filled up to its width. -/
def text (p : Placeholder) (s : String) : String :=
  p.pad (match p.precision with
    | some n => String.ofList (s.toList.take n)
    | none => s)

/-- A text in capitals, if it is to be. -/
def capital (wanted : Bool) (s : String) : String :=
  if wanted then String.ofList (s.toList.map Char.toUpper) else s

/-- An integer in a base: at least as many digits as the precision asks for, and the mark of the
base in front when it is to be shown. -/
def integer (p : Placeholder) (base : Nat) (mark : String) (n : Int) : String :=
  let ds := Nat.toDigits base n.natAbs
  let digits := String.ofList (List.replicate (p.precision.getD 0 - ds.length) '0' ++ ds)
  p.padNumber (p.sign (n < 0) ++ if p.full then mark else "") digits

/-- A double, its digits written by a rule that is given the precision. -/
def real (p : Placeholder) (rule : Bool → Nat → Nat → Int → List Char) (x : Float) : String :=
  let parts := Binary64.ofFloat x
  let digits :=
    match parts with
    | .nan => Decimal.plainSpelling.nan
    | .infinite _ => Decimal.plainSpelling.infinity
    | .finite _ m e => String.ofList (rule p.full (p.precision.getD 6) m e)
  p.padNumber (p.sign parts.isNegative) digits

/-- The integer that a value shown as one is. -/
def integerOf : Json → Except Fault Int
  | .int n => .ok n
  | .bool b => .ok (if b then 1 else 0)
  | _ => .error (.value .badKind)

/-- The integer part of a number. -/
def wholeOf : Json → Except Fault Int
  | .real x => Scalar.toInt (if x < 0.0 then Scalar.ceil x else Scalar.floor x)
  | value => integerOf value

/-- The double that a value shown as one is. -/
def realOf : Json → Except Fault Float
  | .real x => .ok x
  | value => do
    let n ← integerOf value
    let x := Float.ofInt n
    if Scalar.isFinite x then pure x else throw (.value .outOfRange)

/-- The single character that a value is, or that has its code point. -/
def characterOf (value : Json) : Except Fault String :=
  match value with
  | .str s => if s.length = 1 then .ok s else .error (.value .badKind)
  | _ => do
    let n ← integerOf value
    if 0 ≤ n ∧ n < 0x110000 then pure (String.ofList [Char.ofNat n.toNat])
    else throw (.value .outOfRange)

/-- A value as its placeholder shows it. -/
def render (p : Placeholder) (value : Json) : Except Fault String :=
  match p.letter with
  | 's' => .ok (p.text value.display)
  | 'r' => .ok (p.text value.quoted)
  | 'a' => .ok (p.text (Text.asciiOnly value.quoted))
  | 'd' | 'i' | 'u' => p.integer 10 "" <$> wholeOf value
  | 'o' => p.integer 8 "0o" <$> integerOf value
  | 'x' => p.integer 16 "0x" <$> integerOf value
  | 'X' => (capital true ∘ p.integer 16 "0x") <$> integerOf value
  | 'f' | 'F' => (capital (p.letter = 'F') ∘ p.real Decimal.fixedDigits) <$> realOf value
  | 'e' | 'E' => (capital (p.letter = 'E') ∘ p.real Decimal.exponentDigits) <$> realOf value
  | 'g' | 'G' =>
    (capital (p.letter = 'G') ∘ p.real fun keep n ↦ Decimal.generalDigits keep (n - 1)) <$>
      realOf value
  | 'c' => p.pad <$> characterOf value
  | _ => .error (.value .badValue)

end Placeholder

/-- What a template is filled with. -/
structure TemplateValues where
  /-- The members that keys stand for. -/
  members : Option Fields := none
  /-- The values not yet taken. -/
  queue : List Json
  /-- Whether values may be left over at the end. -/
  maySpare : Bool := false

namespace TemplateValues

/-- One value after the other. -/
def inOrder (values : List Json) : TemplateValues := { queue := values }

/-- Values by key; without a key, the object itself stands for a single value. -/
def byKey (fields : Fields) : TemplateValues := ⟨some fields, [.obj fields], true⟩

/-- A value that stands for itself: the members of an object have their keys, and an object or a
list need not be used. -/
def single (value : Json) : TemplateValues :=
  match value with
  | .obj fields => byKey fields
  | .arr _ => { queue := [value], maySpare := true }
  | _ => inOrder [value]

/-- The next value, and the values left. -/
def next (values : TemplateValues) : Except Fault (Json × TemplateValues) :=
  match values.queue with
  | v :: rest => .ok (v, { values with queue := rest })
  | [] => .error (.value .badKind)

/-- The members that keys stand for. -/
def keyed (values : TemplateValues) : Except Fault Fields :=
  match values.members with
  | some fields => .ok fields
  | none => .error (.value .badKind)

/-- The value under a key as the only one left. -/
def choose (fields : Fields) (key : String) : Except Fault TemplateValues :=
  match fields.get? key with
  | some v => .ok ⟨some fields, [v], true⟩
  | none => .error (.value .noSuchKey)

/-- Whether values are left over that may not be. -/
def isLeftOver (values : TemplateValues) : Bool := !values.maySpare && !values.queue.isEmpty

end TemplateValues

namespace Template

/-- The characters up to the parenthesis that closes the outermost of `depth + 1` open ones, and
what follows it. -/
def takeKey : Nat → List Char → Option (List Char × List Char)
  | _, [] => none
  | 0, ')' :: rest => some ([], rest)
  | depth + 1, ')' :: rest => (takeKey depth rest).map fun (key, after) ↦ (')' :: key, after)
  | depth, '(' :: rest => (takeKey (depth + 1) rest).map fun (key, after) ↦ ('(' :: key, after)
  | depth, c :: rest => (takeKey depth rest).map fun (key, after) ↦ (c :: key, after)

/-- Flags at the head of a text. -/
def takeFlags (p : Placeholder) : List Char → Placeholder × List Char
  | '-' :: rest => takeFlags { p with left := true } rest
  | '+' :: rest => takeFlags { p with plus := true } rest
  | ' ' :: rest => takeFlags { p with blank := true } rest
  | '0' :: rest => takeFlags { p with zero := true } rest
  | '#' :: rest => takeFlags { p with full := true } rest
  | s => (p, s)

/-- A part of a placeholder that was read: what it is, the text and the values that are left. -/
abbrev Part (β : Type) := β × List Char × TemplateValues

/-- The greatest width. -/
def greatestWidth : Nat := 9223372036854775807

/-- The greatest precision. -/
def greatestPrecision : Nat := 2147483647

/-- The number at the head of a text: a star that takes it from the values, or ASCII digits. -/
def takeNumber (greatest : Nat) (s : List Char) (values : TemplateValues) :
    Except Fault (Part Int) :=
  match s with
  | '*' :: rest => do
    let (v, values) ← values.next
    let n ← Placeholder.integerOf v
    if greatest < n.natAbs then throw (.value .outOfRange)
    pure (n, rest, values)
  | _ => do
    let (ds, rest) := s.span Char.isDigit
    let n := Decimal.ofDigits (ds.map fun c ↦ c.toNat - '0'.toNat)
    if greatest < n then throw (.value .badValue)
    pure (n, rest, values)

/-- The precision at the head of a text, if there is one. -/
def takePrecision (s : List Char) (values : TemplateValues) : Except Fault (Part (Option Nat)) :=
  match s with
  | '.' :: rest => do
    let (n, rest, values) ← takeNumber greatestPrecision rest values
    pure (some n.toNat, rest, values)
  | _ => .ok (none, s, values)

/-- The key at the head of a text turned into the only value left. -/
def takeChoice (s : List Char) (values : TemplateValues) : Except Fault (Part Unit) :=
  match s with
  | '(' :: rest => do
    let fields ← values.keyed
    match takeKey 0 rest with
    | some (key, after) => do
      let values ← TemplateValues.choose fields (String.ofList key)
      pure ((), after, values)
    | none => throw (.value .badValue)
  | _ => .ok ((), s, values)

/-- A mark of size before a letter, which says nothing. -/
def dropSize : List Char → List Char
  | 'h' :: rest | 'l' :: rest | 'L' :: rest => rest
  | s => s

/-- The placeholder after a percent sign.  A negative width stands for one at the left. -/
def takePlaceholder (s : List Char) (values : TemplateValues) :
    Except Fault (Part Placeholder) := do
  let (_, s, values) ← takeChoice s values
  let (p, s) := takeFlags {} s
  let (width, s, values) ← takeNumber greatestWidth s values
  let (precision, s, values) ← takePrecision s values
  match dropSize s with
  | letter :: rest =>
    pure ({ p with left := p.left || width < 0, width := width.natAbs, precision, letter }, rest,
      values)
  | [] => throw (.value .badValue)

/-- The pieces of a template with its placeholders filled.  At most `fuel` pieces are made. -/
def fill : Nat → List Char → TemplateValues → Except Fault (List String × TemplateValues)
  | 0, _, values => .ok ([], values)
  | _ + 1, [], values => .ok ([], values)
  | fuel + 1, '%' :: '%' :: rest, values => do
    let (pieces, left) ← fill fuel rest values
    pure ("%" :: pieces, left)
  | fuel + 1, '%' :: rest, values => do
    let (p, after, values) ← takePlaceholder rest values
    let (value, values) ← values.next
    let piece ← p.render value
    let (pieces, left) ← fill fuel after values
    pure (piece :: pieces, left)
  | fuel + 1, c :: rest, values => do
    let (pieces, left) ← fill fuel rest values
    pure (String.ofList [c] :: pieces, left)

/-- A template filled with values; a failure when values are left over. -/
def apply (template : String) (values : TemplateValues) : Except Fault String := do
  let (pieces, left) ← fill (template.length + 1) template.toList values
  if left.isLeftOver then throw (.value .badKind)
  pure (String.join pieces)

/-- The text of a message: the template itself when there are no values; a single object that is not
empty gives its values by key. -/
def message (template : String) (values : List Json) : Except Fault String :=
  match values with
  | [] => .ok template
  | [.obj (f :: rest)] => apply template (.byKey (f :: rest))
  | _ => apply template (.inOrder values)

/-! ## Fields -/

/-- Whether a character may stand in the key of a field. -/
def isWordChar (c : Char) : Bool := c.isAlphanum || c = '_' || 127 < c.toNat

/-- What follows a width: a star or ASCII digits. -/
def afterNumber : List Char → List Char
  | '*' :: rest => rest
  | s => s.dropWhile Char.isDigit

/-- What follows a precision; a point without a number is none. -/
def afterPrecision : List Char → List Char
  | '.' :: c :: rest => if c = '*' ∨ c.isDigit then afterNumber (c :: rest) else '.' :: c :: rest
  | s => s

/-- Whether a text begins with the key of a field, its closing parenthesis and a placeholder. -/
def startsField (s : List Char) : Bool :=
  match s.span isWordChar with
  | (_ :: _, ')' :: rest) =>
    match afterPrecision (afterNumber (rest.dropWhile ("#0+ -".toList.contains ·))) with
    | letter :: _ => "diouxefgcrsa%".toList.contains letter.toLower
    | [] => false
  | _ => false

/-- Whether a field stands somewhere in a text. -/
def hasField : List Char → Bool
  | [] => false
  | c :: rest =>
    (match c, rest with
      | '%', '(' :: after => startsField after
      | _, _ => false) || hasField rest

/-- A template of fields filled with members; a failure when one of its fields is not among the
members. -/
def applyFields (template : String) (fields : Fields) : Except Fault String :=
  match apply template (.byKey fields) with
  | .error (.value .noSuchKey) => .error (.value .badValue)
  | filled => filled

end Template

end QuadMosaic
