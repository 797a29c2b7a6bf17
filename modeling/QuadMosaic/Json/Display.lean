import QuadMosaic.Json.Basic
import QuadMosaic.Decimal.Layout
import QuadMosaic.Text.Quoted

/-!
# Values inside messages

A message shows a value with quoted text inside brackets and braces; a text that is the whole value
stands without quotes.
-/

namespace QuadMosaic.Json

open QuadMosaic.Text

mutual

/-- A value with its text quoted. -/
def quoted : Json → String
  | .null => "None"
  | .bool b => if b then "True" else "False"
  | .int n => toString n
  | .real x => Decimal.floatText Decimal.plainSpelling x
  | .str s => quote s
  | .arr items => "[" ++ joinWith ", " (quotedItems items) ++ "]"
  | .obj fields => "\x7b" ++ joinWith ", " (quotedFields fields) ++ "\x7d"

/-- The items of an array, quoted. -/
def quotedItems : List Json → List String
  | [] => []
  | value :: rest => quoted value :: quotedItems rest

/-- The members of an object, quoted. -/
def quotedFields : List (String × Json) → List String
  | [] => []
  | (key, value) :: rest => (quote key ++ ": " ++ quoted value) :: quotedFields rest

end

/-- A value as a message shows it. -/
def display : Json → String
  | .str s => s
  | value => quoted value

end QuadMosaic.Json
