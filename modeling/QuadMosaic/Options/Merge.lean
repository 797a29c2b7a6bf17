import QuadMosaic.Json.Basic
import QuadMosaic.Fault

/-!
# One set of options laid over another

Options given later replace earlier ones; the members of the two option groups are replaced one by
one.
-/

namespace QuadMosaic

namespace Fields

/-- The keys of the option groups. -/
def groups : List String := ["georeference", "pixels"]

/-- One option laid over a set of options: a member of a group is laid over the group. -/
def mergeOne (base : Fields) (key : String) (value : Json) : Except Fault Fields :=
  match groups.contains key, base.get? key with
  | true, some (.obj group) =>
    match value with
    | .obj later => .ok (base.put key (.obj (Fields.overlay group later)))
    | _ => .error (.value .badKind)
  | _, _ => .ok (base.put key value)

/-- A set of options laid over another. -/
def merge (base later : Fields) : Except Fault Fields :=
  later.foldlM (fun fields f ↦ mergeOne fields f.1 f.2) base

end Fields

end QuadMosaic
