import QuadMosaic.Text.Blank
import QuadMosaic.Text.Printable

/-!
# Quoted text

How a text stands inside a message: between single quotes, or between double quotes when it holds
a single quote and no double one, with a backslash escape for the quote, the backslash and every
character that is not printable.
-/

namespace QuadMosaic.Text

/-- The low `width` hexadecimal digits of `n`. -/
def hexDigits : Nat → Nat → List Char
  | 0, _ => []
  | width + 1, n => hexDigits width (n / 16) ++ [Nat.digitChar (n % 16)]

/-- The quote that encloses a text. -/
def quoteFor (s : List Char) : Char :=
  if s.contains '\'' && !s.contains '"' then '"' else '\''

/-- The code point of a character as an escape. -/
def escapeCode (c : Char) : List Char :=
  if c.toNat < 0x100 then '\\' :: 'x' :: hexDigits 2 c.toNat
  else if c.toNat < 0x10000 then '\\' :: 'u' :: hexDigits 4 c.toNat
  else '\\' :: 'U' :: hexDigits 8 c.toNat

/-- One character between the quotes `q`. -/
def quoteChar (q c : Char) : List Char :=
  if c = q || c = '\\' then ['\\', c]
  else if c = '\n' then ['\\', 'n']
  else if c = '\r' then ['\\', 'r']
  else if c = '\t' then ['\\', 't']
  else if isPrintable c then [c]
  else escapeCode c

/-- The characters of a quoted text. -/
def quoteChars (s : List Char) : List Char :=
  let q := quoteFor s
  q :: (s.flatMap (quoteChar q) ++ [q])

/-- The text between quotes. -/
def quote (s : String) : String := String.ofList (quoteChars s.toList)

/-- A text with every character outside ASCII as an escape. -/
def asciiOnly (s : String) : String :=
  String.ofList (s.toList.flatMap fun c ↦ if c.toNat < 0x80 then [c] else escapeCode c)

end QuadMosaic.Text
