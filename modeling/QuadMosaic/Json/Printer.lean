import QuadMosaic.Json.Basic
import QuadMosaic.Decimal.Layout
import QuadMosaic.Text.Quoted

/-!
# Writing a data file

Two layouts: one value on a line, and one member on a line with two blanks of indentation for each
level.  Text is written in ASCII; any other character becomes one or two escaped code units.
-/

namespace QuadMosaic.Json

open QuadMosaic.Text

/-- A code unit as an escape. -/
def unitText (u : Nat) : List Char := '\\' :: 'u' :: hexDigits 4 u

/-- A character inside a text. -/
def textChar (c : Char) : List Char :=
  if c = '"' then ['\\', '"']
  else if c = '\\' then ['\\', '\\']
  else if c = '\n' then ['\\', 'n']
  else if c = '\r' then ['\\', 'r']
  else if c = '\t' then ['\\', 't']
  else if c = '\x08' then ['\\', 'b']
  else if c = '\x0c' then ['\\', 'f']
  else if 0x20 ≤ c.toNat ∧ c.toNat < 0x7f then [c]
  else if c.toNat < 0x10000 then unitText c.toNat
  else
    unitText (0xd800 + (c.toNat - 0x10000) / 0x400) ++
      unitText (0xdc00 + (c.toNat - 0x10000) % 0x400)

/-- A text between its quotes. -/
def textLiteral (s : String) : String := String.ofList ('"' :: (s.toList.flatMap textChar ++ ['"']))

/-- A value that has no parts. -/
def leafText : Json → String
  | .null => "null"
  | .bool b => if b then "true" else "false"
  | .int n => toString n
  | .real x => Decimal.floatText Decimal.dataSpelling x
  | .str s => textLiteral s
  | .arr _ => "[]"
  | .obj _ => "\x7b\x7d"

mutual

/-- A value on one line. -/
def line : Json → String
  | .arr items => "[" ++ joinWith ", " (lineItems items) ++ "]"
  | .obj fields => "\x7b" ++ joinWith ", " (lineFields fields) ++ "\x7d"
  | value => leafText value

/-- The items of an array, each on one line. -/
def lineItems : List Json → List String
  | [] => []
  | value :: rest => line value :: lineItems rest

/-- The members of an object, each on one line. -/
def lineFields : List (String × Json) → List String
  | [] => []
  | (key, value) :: rest => (textLiteral key ++ ": " ++ line value) :: lineFields rest

end

/-- A line end and the indentation of a level. -/
def newLine (level : Nat) : String := String.ofList ('\n' :: List.replicate (2 * level) ' ')

mutual

/-- A value laid out over several lines, its parts one level deeper. -/
def pretty (level : Nat) : Json → String
  | .arr [] => "[]"
  | .obj [] => "\x7b\x7d"
  | .arr items =>
    "[" ++ newLine (level + 1) ++ joinWith ("," ++ newLine (level + 1)) (prettyItems level items) ++
      newLine level ++ "]"
  | .obj fields =>
    "\x7b" ++ newLine (level + 1) ++
      joinWith ("," ++ newLine (level + 1)) (prettyFields level fields) ++ newLine level ++ "\x7d"
  | value => leafText value

/-- The items of an array one level deeper. -/
def prettyItems (level : Nat) : List Json → List String
  | [] => []
  | value :: rest => pretty (level + 1) value :: prettyItems level rest

/-- The members of an object one level deeper. -/
def prettyFields (level : Nat) : List (String × Json) → List String
  | [] => []
  | (key, value) :: rest =>
    (textLiteral key ++ ": " ++ pretty (level + 1) value) :: prettyFields level rest

end

/-- The text of a data file. -/
def document (value : Json) : String := pretty 0 value

end QuadMosaic.Json
