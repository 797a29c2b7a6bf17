/-!
# Structured data

A value of a data file: the configuration that a user writes, the plan and the report that a run
leaves, the parameters of a reference system.  Members of an object keep the order in which they
were written, and a key stands once.  Main statement: `Fields.get?_put`, the last value written
under a key is the one found.
-/

namespace QuadMosaic

/-- A value of a data file.  Whole numbers and doubles are told apart by how they are written. -/
inductive Json
  | null
  | bool (b : Bool)
  | int (n : Int)
  | real (x : Float)
  | str (s : String)
  | arr (items : List Json)
  | obj (fields : List (String × Json))
  deriving Repr, Inhabited

/-- The members of an object, in order. -/
abbrev Fields := List (String × Json)

namespace Fields

/-- The value under a key. -/
def get? (fields : Fields) (key : String) : Option Json :=
  (fields.find? fun f ↦ f.1 == key).map (·.2)

/-- Whether a key is present. -/
def has (fields : Fields) (key : String) : Bool := (fields.get? key).isSome

/-- The value under a key, with null for an absent one. -/
def getD (fields : Fields) (key : String) : Json := (fields.get? key).getD .null

/-- A value written under a key, which keeps its place when it is already there. -/
def put : Fields → String → Json → Fields
  | [], key, value => [(key, value)]
  | (k, v) :: rest, key, value =>
    if k = key then (k, value) :: rest else (k, v) :: put rest key value

/-- The members without a key. -/
def erase (fields : Fields) (key : String) : Fields := fields.filter fun f ↦ f.1 ≠ key

/-- All members of `later` written over those of `base`. -/
def overlay (base later : Fields) : Fields := later.foldl (fun fields f ↦ fields.put f.1 f.2) base

/-- The keys in order. -/
def keys (fields : Fields) : List String := fields.map (·.1)

@[simp] theorem get?_nil (key : String) : get? [] key = none := rfl

theorem get?_cons (k : String) (v : Json) (rest : Fields) (key : String) :
    get? ((k, v) :: rest) key = if k = key then some v else get? rest key := by
  by_cases h : k = key <;> simp [get?, h]

/-- After writing under a key, that key holds the value written and every other one its own. -/
theorem get?_put (fields : Fields) (key : String) (value : Json) (key' : String) :
    get? (put fields key value) key' = if key = key' then some value else get? fields key' := by
  induction fields with
  | nil => simp [put, get?_cons]
  | cons f rest ih =>
    obtain ⟨k, v⟩ := f
    by_cases h : k = key
    · subst h
      by_cases h' : k = key' <;> simp [put, get?_cons, h']
    · by_cases h' : key = key'
      · subst h'
        simp [put, get?_cons, h, ih]
      · simp [put, get?_cons, h, h', ih]

end Fields

namespace Json

/-- Whether a value counts as given: not null, false, zero or empty. -/
def isGiven : Json → Bool
  | .null => false
  | .bool b => b
  | .int n => n != 0
  | .real x => !(x == 0.0)
  | .str s => !s.isEmpty
  | .arr items => !items.isEmpty
  | .obj fields => !fields.isEmpty

/-- The members of an object. -/
def fields? : Json → Option Fields
  | .obj fields => some fields
  | _ => none

/-- Null for nothing. -/
def ofOption {α : Type} (f : α → Json) : Option α → Json
  | none => .null
  | some a => f a

/-- An array of the values of a list. -/
def ofList {α : Type} (f : α → Json) (items : List α) : Json := .arr (items.map f)

mutual

/-- Equality of data by value: a whole number equals the double of the same value, the order of
members does not matter, and no number equals itself only when it is a double that is one. -/
def same : Json → Json → Bool
  | .null, .null => true
  | .bool a, .bool b => a == b
  | .int a, .int b => a == b
  | .int a, .real y => Float.ofInt a == y
  | .real x, .int b => x == Float.ofInt b
  | .real x, .real y => x == y || (x.isNaN && y.isNaN)
  | .str a, .str b => a == b
  | .arr xs, .arr ys => sameItems xs ys
  | .obj fs, .obj gs => fs.length == gs.length && sameFields fs gs
  | _, _ => false

/-- Equality of the items of two arrays. -/
def sameItems : List Json → List Json → Bool
  | [], [] => true
  | x :: xs, y :: ys => same x y && sameItems xs ys
  | _, _ => false

/-- Every member has an equal one of the same key in the other object. -/
def sameFields : List (String × Json) → Fields → Bool
  | [], _ => true
  | (k, v) :: rest, gs =>
    (match gs.get? k with
      | some w => same v w
      | none => false) && sameFields rest gs

end

end Json

end QuadMosaic
