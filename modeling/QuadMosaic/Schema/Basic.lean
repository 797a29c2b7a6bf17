import QuadMosaic.Json.Display

/-!
# Schemas

A schema says which values a data file may hold.  Checking a value yields every violation with the
place where it stands; `Schema.check` reports the one nearest to the root.
-/

namespace QuadMosaic

namespace Schema

/-- The kinds of value that a schema tells apart. -/
inductive Kind
  | object | array | string | number | integer | boolean | null
  deriving DecidableEq, Repr

namespace Kind

/-- The name of a kind. -/
def name : Kind → String
  | object => "object"
  | array => "array"
  | string => "string"
  | number => "number"
  | integer => "integer"
  | boolean => "boolean"
  | null => "null"

/-- Whether a double holds a whole number. -/
def isWhole (x : Float) : Bool :=
  match Binary64.ofFloat x with
  | .finite _ m e => 0 ≤ e || m % Nat.pow 2 (-e).toNat == 0
  | _ => false

/-- Whether a value is of a kind.  A double without a fraction is an integer; a truth value is not a
number. -/
def holds : Kind → Json → Bool
  | object, .obj _ => true
  | array, .arr _ => true
  | string, .str _ => true
  | number, .int _ => true
  | number, .real _ => true
  | integer, .int _ => true
  | integer, .real x => isWhole x
  | boolean, .bool _ => true
  | null, .null => true
  | _, _ => false

end Kind

/-- One step from a value into one of its parts. -/
inductive Step
  | key (k : String)
  | index (i : Nat)
  deriving DecidableEq, Repr

namespace Step

/-- Whether one step comes before another. -/
def before : Step → Step → Bool
  | .key a, .key b => a < b
  | .index i, .index j => i < j
  | .key _, .index _ => false
  | .index _, .key _ => true

/-- Whether one path comes before another in the order of dictionaries. -/
def pathBefore : List Step → List Step → Bool
  | [], [] => false
  | [], _ :: _ => true
  | _ :: _, [] => false
  | a :: as, b :: bs => before a b || (a == b && pathBefore as bs)

end Step

/-- What is wrong with a value. -/
inductive Cause
  | kind (value : Json) (kinds : List Kind)
  | choice (value : Json) (choices : List Json)
  | missing (key : String)
  | unexpected (keys : List String)
  | empty (value : Json)
  | below (value : Json) (bound : Int)
  | above (value : Json) (bound : Int)
  | notAbove (value : Json) (bound : Int)
  deriving Repr

namespace Cause

/-- The text of a cause. -/
def message : Cause → String
  | .kind value kinds =>
    value.quoted ++ " is not of type " ++
      Text.joinWith ", " (kinds.map fun k ↦ Text.quote k.name)
  | .choice value choices => value.quoted ++ " is not one of " ++ (Json.arr choices).quoted
  | .missing key => Text.quote key ++ " is a required property"
  | .unexpected keys =>
    "Additional properties are not allowed (" ++ Text.joinWith ", " (keys.map Text.quote) ++
      (if keys.length = 1 then " was" else " were") ++ " unexpected)"
  | .empty value => value.quoted ++ " should be non-empty"
  | .below value bound => value.quoted ++ " is less than the minimum of " ++ toString bound
  | .above value bound => value.quoted ++ " is greater than the maximum of " ++ toString bound
  | .notAbove value bound =>
    value.quoted ++ " is less than or equal to the minimum of " ++ toString bound

end Cause

/-- A cause, the path to the value it is about, and whether that value is of a kind that its schema
asks for. -/
structure Violation where
  path : List Step
  cause : Cause
  rightKind : Bool
  deriving Repr

namespace Violation

/-- Whether `v` is to be reported rather than `w`: the nearer to the root, then the one further on
among its neighbours, then the one whose value is not of the kind asked for. -/
def outranks (v w : Violation) : Bool :=
  if v.path.length ≠ w.path.length then v.path.length < w.path.length
  else if Step.pathBefore w.path v.path then true
  else if Step.pathBefore v.path w.path then false
  else !v.rightKind && w.rightKind

/-- The violation to report, the earliest among equals. -/
def foremost : List Violation → Option Violation
  | [] => none
  | v :: rest => some (rest.foldl (fun best w ↦ if w.outranks best then w else best) v)

/-- The violation seen from one step further out. -/
def under (step : Step) (v : Violation) : Violation := { v with path := step :: v.path }

end Violation

end Schema

/-- The values that a data file may hold at one place. -/
structure Schema where
  /-- The kinds allowed; every kind when empty. -/
  kinds : List Schema.Kind := []
  /-- The values allowed. -/
  choices : Option (List Json) := none
  /-- The keys that an object must have. -/
  required : List String := []
  /-- Whether an array or a text must not be empty. -/
  nonEmpty : Bool := false
  /-- The least number allowed. -/
  least : Option Int := none
  /-- The greatest number allowed. -/
  greatest : Option Int := none
  /-- A number that the value must exceed. -/
  floor : Option Int := none
  /-- The schemas of the members of an object. -/
  members : List (String × Schema) := []
  /-- Whether an object may have no other members. -/
  closed : Bool := false
  /-- The schema of all other members. -/
  others : Option Schema := none
  /-- The schema of the items of an array. -/
  items : Option Schema := none

namespace Schema

/-- Whether a number is less than a bound. -/
def isBelow : Json → Int → Bool
  | .int n, bound => n < bound
  | .real x, bound => x < Float.ofInt bound
  | _, _ => false

/-- Whether a number is greater than a bound. -/
def isAbove : Json → Int → Bool
  | .int n, bound => bound < n
  | .real x, bound => Float.ofInt bound < x
  | _, _ => false

/-- Whether a number is a bound or less. -/
def isAtMost : Json → Int → Bool
  | .int n, bound => n ≤ bound
  | .real x, bound => x ≤ Float.ofInt bound
  | _, _ => false

/-- Whether a value is an empty array or an empty text. -/
def isHollow : Json → Bool
  | .arr items => items.isEmpty
  | .str s => s.isEmpty
  | _ => false

/-- The causes that concern the value itself. -/
def ownCauses (kinds : List Kind) (choices : Option (List Json)) (required : List String)
    (nonEmpty : Bool) (least greatest floor : Option Int) (value : Json) : List Cause :=
  (if kinds = [] ∨ kinds.any (·.holds value) then [] else [.kind value kinds]) ++
  (match choices with
    | some cs => if cs.any (·.same value) then [] else [.choice value cs]
    | none => []) ++
  (match value with
    | .obj fields => (required.filter fun k ↦ !Fields.has fields k).map .missing
    | _ => []) ++
  (if nonEmpty && isHollow value then [.empty value] else []) ++
  ((least.filter fun b ↦ isBelow value b).map (.below value)).toList ++
  ((greatest.filter fun b ↦ isAbove value b).map (.above value)).toList ++
  ((floor.filter fun b ↦ isAtMost value b).map (.notAbove value)).toList

mutual

/-- Every violation of a schema by a value. -/
def violations : Schema → Json → List Violation
  | ⟨kinds, choices, required, nonEmpty, least, greatest, floor, members, closed, others, items⟩,
      value =>
    let rightKind := kinds.any (·.holds value)
    let own (c : Cause) : Violation := ⟨[], c, rightKind⟩
    let known := members.map (·.1)
    let extra : Fields :=
      match value with
      | .obj fields => fields.filter fun f ↦ !known.contains f.1
      | _ => []
    (ownCauses kinds choices required nonEmpty least greatest floor value).map own ++
    memberViolations members value ++
    (if closed && !extra.isEmpty then
      [own (.unexpected ((Fields.keys extra).mergeSort (· ≤ ·)))] else []) ++
    otherViolations others extra ++
    itemViolations items value

/-- The violations inside the members that have schemas. -/
def memberViolations : List (String × Schema) → Json → List Violation
  | [], _ => []
  | (key, schema) :: rest, value =>
    (match value with
      | .obj fields =>
        match Fields.get? fields key with
        | some v => (violations schema v).map (·.under (.key key))
        | none => []
      | _ => []) ++ memberViolations rest value

/-- The violations inside the remaining members. -/
def otherViolations : Option Schema → Fields → List Violation
  | none, _ => []
  | some schema, extra =>
    extra.flatMap fun (key, v) ↦ (violations schema v).map (·.under (.key key))

/-- The violations inside the items of an array. -/
def itemViolations : Option Schema → Json → List Violation
  | some schema, .arr values =>
    values.zipIdx.flatMap fun (v, i) ↦ (violations schema v).map (·.under (.index i))
  | _, _ => []

end

/-- The violation of a schema to report, if there is one. -/
def check (schema : Schema) (value : Json) : Option Violation :=
  Violation.foremost (violations schema value)

/-- Whether a value obeys a schema. -/
def Accepts (schema : Schema) (value : Json) : Prop := violations schema value = []

/-- Nothing is reported exactly when the value obeys the schema. -/
theorem check_eq_none_iff (schema : Schema) (value : Json) :
    check schema value = none ↔ Accepts schema value := by
  unfold check Accepts Violation.foremost
  split <;> simp_all

end Schema

end QuadMosaic
