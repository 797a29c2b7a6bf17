/-!
# Blank characters and letter case

Names typed by a user are compared after blanks around them are dropped and capital letters are
made small.
-/

namespace QuadMosaic.Text

/-- The inclusive code point ranges of blank characters. -/
def blankRanges : List (Nat × Nat) :=
  [(0x9, 0xd), (0x1c, 0x20), (0x85, 0x85), (0xa0, 0xa0), (0x1680, 0x1680), (0x2000, 0x200a),
    (0x2028, 0x2029), (0x202f, 0x202f), (0x205f, 0x205f), (0x3000, 0x3000)]

/-- Whether `c` is blank. -/
def isBlank (c : Char) : Bool :=
  blankRanges.any fun r ↦ r.1 ≤ c.toNat && c.toNat ≤ r.2

/-- `s` without the blanks at its two ends. -/
def stripChars (s : List Char) : List Char :=
  ((s.dropWhile isBlank).reverse.dropWhile isBlank).reverse

/-- The text without the blanks at its two ends. -/
def strip (s : String) : String := String.ofList (stripChars s.toList)

/-- The small form of a letter that has an ASCII small form: the ASCII capitals and the Kelvin
sign. -/
def toSmall (c : Char) : Char := if c = '\u212a' then 'k' else c.toLower

/-- The text with its letters made small, as far as ASCII names are concerned. -/
def lower (s : String) : String := String.ofList (s.toList.map toSmall)

/-- The text with every occurrence of one character replaced by another. -/
def replaceChar (old new : Char) (s : String) : String :=
  String.ofList (s.toList.map fun c ↦ if c = old then new else c)

/-- The parts joined with a separator between each two. -/
def joinWith (sep : String) (parts : List String) : String := String.intercalate sep parts

end QuadMosaic.Text
