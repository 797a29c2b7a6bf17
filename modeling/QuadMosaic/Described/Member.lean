import QuadMosaic.Grid.Quantity
import QuadMosaic.Options.Coerce

/-!
# Members of a description

Things that a run is about can be described by data: an object that holds each part under a key.
A member that is absent counts as null or as a default.
-/

namespace QuadMosaic

namespace Json

/-- The items of an array; any other value has none. -/
def items : Json → List Json
  | .arr values => values
  | _ => []

/-- The members of an object; any other value has none. -/
def members (value : Json) : Fields := value.fields?.getD []

/-- The text that a value is; any other value is empty. -/
def text : Json → String
  | .str s => s
  | _ => ""

/-- The items of an array; a failure for any other value. -/
def toItems : Json → Except Fault (List Json)
  | .arr values => .ok values
  | _ => .error (.value .badKind)

/-- The members that a value gives: those of an object, or those of a list of keys with their
values. -/
def toEntries : Json → Except Fault Fields
  | .obj fields => .ok fields
  | .arr pairs => pairs.foldlM (fun fields pair ↦
      match pair with
      | .arr [.str key, value] => .ok (fields.put key value)
      | .arr _ => .error (.value .badValue)
      | _ => .error (.value .badKind)) ([] : Fields)
  | _ => .error (.value .badKind)

/-- A value taken for an integer, zero when it is none. -/
def toIntD (value : Json) : Int := value.toInt.toOption.getD 0

end Json

namespace Fields

/-- The members of the object under a key. -/
def members (fields : Fields) (key : String) : Fields := (fields.getD key).members

/-- The items of the array under a key. -/
def items (fields : Fields) (key : String) : List Json := (fields.getD key).items

/-- The text under a key, or a default. -/
def text (fields : Fields) (key : String) (default : String := "") : String :=
  (fields.getOr key (.str default)).text

/-- Whether the value under a key counts as given, or a default. -/
def flag (fields : Fields) (key : String) (default : Bool := false) : Bool :=
  (fields.getOr key (.bool default)).isGiven

/-- The integer under a key, or a default. -/
def int (fields : Fields) (key : String) (default : Int := 0) : Int :=
  (fields.getOr key (.int default)).toIntD

/-- The natural number under a key, or a default. -/
def natural (fields : Fields) (key : String) (default : Nat) : Nat :=
  (fields.int key default).toNat

/-- The double under a key, or a default. -/
def real (fields : Fields) (key : String) (default : Json := .null) : Except Fault Float :=
  (fields.getOr key default).toReal

/-- The number under a key, or a default. -/
def quantity (fields : Fields) (key : String) (default : Json := .null) : Except Fault Quantity :=
  Quantity.ofJson (fields.getOr key default)

/-- The number under a key, which may be a text. -/
def readQuantity (fields : Fields) (key : String) : Except Fault Quantity :=
  Quantity.read (fields.getD key)

end Fields

end QuadMosaic
