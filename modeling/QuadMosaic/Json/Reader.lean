import QuadMosaic.Json.Basic
import QuadMosaic.Decimal.Reading

/-!
# Reading a data file

The grammar is the usual one for structured data, with three more words for the doubles that have
no digits.  Blanks are the space, the tab and the two line ends.  A number without a fraction and
without an exponent is whole.  Of two members with one key the later value wins and the earlier
place is kept.  A text that goes too deep, or has a whole number with too many digits, is refused
where it does, whatever follows; a fault in front of that place comes first.
-/

namespace QuadMosaic.Json

open QuadMosaic.Decimal

/-- Whether a character may stand between the parts of a text. -/
def isSpace (c : Char) : Bool := c = ' ' || c = '\n' || c = '\t' || c = '\r'

/-- The text without leading blanks. -/
def skipSpace (s : List Char) : List Char := s.dropWhile isSpace

/-- The value of a hexadecimal digit. -/
def hexDigit? (c : Char) : Option Nat :=
  if '0' ≤ c ∧ c ≤ '9' then some (c.toNat - '0'.toNat)
  else if 'a' ≤ c ∧ c ≤ 'f' then some (c.toNat - 'a'.toNat + 10)
  else if 'A' ≤ c ∧ c ≤ 'F' then some (c.toNat - 'A'.toNat + 10)
  else none

/-- Four hexadecimal digits and the rest. -/
def takeUnit? : List Char → Option (Nat × List Char)
  | a :: b :: c :: d :: rest => do
    let a ← hexDigit? a
    let b ← hexDigit? b
    let c ← hexDigit? c
    let d ← hexDigit? d
    pure (((a * 16 + b) * 16 + c) * 16 + d, rest)
  | _ => none

/-- The character of a code unit that stands alone; half of a pair stands for no character. -/
def loneUnit (u : Nat) : Char := if 0xd800 ≤ u ∧ u < 0xe000 then '\ufffd' else Char.ofNat u

/-- The character written after a backslash and the letter `u`, and the rest: two units that form a
pair are one character. -/
def takeEscapedUnit? (s : List Char) : Option (Char × List Char) := do
  let (u, rest) ← takeUnit? s
  if 0xd800 ≤ u ∧ u < 0xdc00 then
    match rest with
    | '\\' :: 'u' :: rest' =>
      match takeUnit? rest' with
      | some (v, rest'') =>
        if 0xdc00 ≤ v ∧ v < 0xe000 then
          pure (Char.ofNat (0x10000 + (u - 0xd800) * 0x400 + (v - 0xdc00)), rest'')
        else pure (loneUnit u, rest)
      | none => none
    | _ => pure (loneUnit u, rest)
  else pure (loneUnit u, rest)

/-- The character that a letter after a backslash stands for. -/
def simpleEscape? : Char → Option Char
  | '"' => some '"'
  | '\\' => some '\\'
  | '/' => some '/'
  | 'b' => some '\x08'
  | 'f' => some '\x0c'
  | 'n' => some '\n'
  | 'r' => some '\r'
  | 't' => some '\t'
  | _ => none

/-- The characters of a text up to its closing quote, and what follows it.  The characters read so
far are kept in reverse; at most `fuel` steps are made. -/
def takeText? : Nat → List Char → List Char → Option (String × List Char)
  | 0, _, _ => none
  | _ + 1, _, [] => none
  | fuel + 1, seen, c :: rest =>
    if c = '"' then some (String.ofList seen.reverse, rest)
    else if c.toNat < 0x20 then none
    else if c = '\\' then
      match rest with
      | [] => none
      | 'u' :: rest' =>
        match takeEscapedUnit? rest' with
        | some (d, rest'') => takeText? fuel (d :: seen) rest''
        | none => none
      | e :: rest' =>
        match simpleEscape? e with
        | some d => takeText? fuel (d :: seen) rest'
        | none => none
    else takeText? fuel (c :: seen) rest

/-- The number of ASCII digits at the head of a text. -/
def digitSpan (s : List Char) : List Char × List Char := s.span Char.isDigit

/-- The natural number that ASCII digits denote. -/
def naturalOf (ds : List Char) : Nat := ofDigits (ds.map fun c ↦ c.toNat - '0'.toNat)

/-- A point with digits after it: the digits and the rest. -/
def fractionSpan (s : List Char) : List Char × List Char :=
  match s with
  | '.' :: rest =>
    match digitSpan rest with
    | ([], _) => ([], s)
    | found => found
  | _ => ([], s)

/-- A power of ten: its value and the rest. -/
def powerSpan (s : List Char) : Option Int × List Char :=
  match s with
  | c :: rest =>
    if c = 'e' ∨ c = 'E' then
      let (negative, body) := takeSign rest
      match digitSpan body with
      | ([], _) => (none, s)
      | (ds, after) => (some (if negative then -(naturalOf ds : Int) else naturalOf ds), after)
    else (none, s)
  | [] => (none, s)

/-- Why a text is not read. -/
inductive Defect
  /-- The text does not follow the grammar. -/
  | malformed
  /-- Too many arrays and objects stand inside one another. -/
  | tooDeep
  /-- A whole number has too many digits. -/
  | tooLong
  deriving DecidableEq, Repr

/-- A part of a text that was read and the rest. -/
abbrev Taken (β : Type) := Except Defect (β × List Char)

/-- What was read, changed. -/
def Taken.map {β γ : Type} (f : β → γ) : Taken β → Taken γ
  | .ok (b, rest) => .ok (f b, rest)
  | .error d => .error d

/-- What was read, or a text that does not follow the grammar. -/
def Taken.ofOption {β : Type} (found : Option (β × List Char)) : Taken β :=
  match found with
  | some taken => .ok taken
  | none => .error .malformed

/-- A number and the rest. -/
def takeNumber (s : List Char) : Taken Json :=
  let (negative, body) :=
    match s with
    | '-' :: rest => (true, rest)
    | _ => (false, s)
  let (whole, rest) :=
    match body with
    | '0' :: after => (['0'], after)
    | _ => digitSpan body
  if whole = [] then .error .malformed
  else
    let (fraction, rest') := fractionSpan rest
    let (power, rest'') := powerSpan rest'
    if fraction = [] ∧ power = none then
      if integerDigitLimit < whole.length then .error .tooLong
      else .ok (.int (if negative then -(naturalOf whole : Int) else naturalOf whole), rest'')
    else
      .ok (.real (toFloat negative (naturalOf (whole ++ fraction))
        (power.getD 0 - fraction.length)), rest'')

/-- The words that are values, with what they denote. -/
def words : List (String × Json) :=
  [("null", .null), ("true", .bool true), ("false", .bool false), ("NaN", .real (0.0 / 0.0)),
    ("Infinity", .real (1.0 / 0.0)), ("-Infinity", .real (-(1.0 / 0.0)))]

/-- What is left of a text after a word at its head. -/
def afterWord? : List Char → List Char → Option (List Char)
  | [], s => some s
  | w :: word, c :: s => if w = c then afterWord? word s else none
  | _ :: _, [] => none

/-- A word and the rest. -/
def takeWord? (s : List Char) : Option (Json × List Char) :=
  words.findSome? fun (word, value) ↦ (afterWord? word.toList s).map fun rest ↦ (value, rest)

mutual

/-- A value and the rest, with at most `depth` arrays and objects inside one another.  Two steps
together take at least one character, so fuel of twice the length of the text is enough. -/
def takeValue (depth : Nat) : Nat → List Char → Taken Json
  | 0, _ => .error .malformed
  | fuel + 1, s =>
    match s, depth with
    | '"' :: rest, _ => Taken.map .str (.ofOption (takeText? fuel [] rest))
    | '[' :: _, 0 => .error .tooDeep
    | '[' :: rest, inner + 1 =>
      match skipSpace rest with
      | ']' :: after => .ok (.arr [], after)
      | rest' => Taken.map .arr (takeItems inner fuel [] rest')
    | '\x7b' :: _, 0 => .error .tooDeep
    | '\x7b' :: rest, inner + 1 =>
      match skipSpace rest with
      | '\x7d' :: after => .ok (.obj [], after)
      | rest' => Taken.map .obj (takeMembers inner fuel [] rest')
    | _, _ =>
      match takeWord? s with
      | some taken => .ok taken
      | none => takeNumber s

/-- The items of an array up to its closing bracket, and what follows it. -/
def takeItems (depth : Nat) : Nat → List Json → List Char → Taken (List Json)
  | 0, _, _ => .error .malformed
  | fuel + 1, seen, s =>
    match takeValue depth fuel (skipSpace s) with
    | .error d => .error d
    | .ok (value, rest) =>
      match skipSpace rest with
      | ',' :: after => takeItems depth fuel (value :: seen) after
      | ']' :: after => .ok ((value :: seen).reverse, after)
      | _ => .error .malformed

/-- The members of an object up to its closing brace, and what follows it. -/
def takeMembers (depth : Nat) : Nat → Fields → List Char → Taken Fields
  | 0, _, _ => .error .malformed
  | fuel + 1, seen, s =>
    match skipSpace s with
    | '"' :: rest =>
      match takeText? fuel [] rest with
      | none => .error .malformed
      | some (key, rest') =>
        match skipSpace rest' with
        | ':' :: rest'' =>
          match takeValue depth fuel (skipSpace rest'') with
          | .error d => .error d
          | .ok (value, rest₃) =>
            match skipSpace rest₃ with
            | ',' :: after => takeMembers depth fuel (seen.put key value) after
            | '\x7d' :: after => .ok (seen.put key value, after)
            | _ => .error .malformed
        | _ => .error .malformed
    | _ => .error .malformed

end

/-- The greatest number of arrays and objects inside one another in a data file. -/
def depthLimit : Nat := 990

/-- The value that a whole text denotes, or its first defect. -/
def parse (s : String) (depth : Nat := depthLimit) : Except Defect Json := do
  let (value, rest) ← takeValue depth (2 * s.length + 2) (skipSpace s.toList)
  if skipSpace rest = [] then pure value else throw .malformed

/-- The value that a whole text denotes, however deep it goes. -/
def parse? (s : String) : Option Json := (parse s s.length).toOption

end QuadMosaic.Json
