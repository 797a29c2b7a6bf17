import QuadMosaic.Decimal.Reading
import QuadMosaic.Json.Display
import QuadMosaic.Scalar

/-!
# Values taken for what they are meant to be

A configuration may hold a number as text, a whole number as a fraction, or any value where a truth
value is meant.  Each is taken for what is meant as far as it can be.
-/

namespace QuadMosaic.Json

/-- The integer part of a double. -/
def truncate (x : Float) : Except Fault Int :=
  Scalar.toInt (Scalar.truncate x)

/-- A value taken for an integer. -/
def toInt : Json → Except Fault Int
  | .int n => .ok n
  | .bool b => .ok (if b then 1 else 0)
  | .real x => truncate x
  | .str s =>
    match Decimal.readInt? s with
    | some n => .ok n
    | none => .error (.value .badValue)
  | .null | .arr _ | .obj _ => .error (.value .badKind)

/-- A value taken for a double. -/
def toReal : Json → Except Fault Float
  | .int n => Scalar.ofWhole n
  | .bool b => .ok (if b then 1.0 else 0.0)
  | .real x => .ok x
  | .str s =>
    match Decimal.readFloat? s with
    | some x => .ok x
    | none => .error (.value .badValue)
  | .null | .arr _ | .obj _ => .error (.value .badKind)

/-- A value taken for a double, null for none. -/
def toReal? : Json → Except Fault (Option Float)
  | .null => .ok none
  | value => value.toReal.map some

/-- A value taken for an integer, null for none. -/
def toInt? : Json → Except Fault (Option Int)
  | .null => .ok none
  | value => value.toInt.map some

/-- A value taken for the members of an object: nothing given stands for no members. -/
def toMembers (value : Json) : Except Fault Fields :=
  match value with
  | .obj fields => .ok fields
  | _ => if value.isGiven then .error (.value .noSuchField) else .ok []

end QuadMosaic.Json

namespace QuadMosaic.Fields

/-- The value under a key, or a default when the key is absent. -/
def getOr (fields : Fields) (key : String) (default : Json) : Json :=
  (fields.get? key).getD default

end QuadMosaic.Fields
