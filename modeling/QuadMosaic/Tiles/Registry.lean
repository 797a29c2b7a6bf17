import QuadMosaic.Log.Record
import QuadMosaic.Tiles.Writer

/-!
# The registry of tile writers

The built-in writer is always there; other packages announce more under names of their own.  A
writer is looked up by name; what was announced is only tried out when it is asked for.
-/

namespace QuadMosaic

/-- What an announced name leads to when it is loaded. -/
inductive Factory
  /-- A function that makes an object, which may lack what a writer needs. -/
  | maker (spec : Option WriterSpec)
    (generate : Option (TileJob → TileSource Float → Writing TileTree))
  /-- Some other value, as messages show it. -/
  | value (shown : String)

/-- A name announced by another package. -/
structure Announcement where
  name : String
  /-- Where the factory is to be found. -/
  location : String
  /-- The factory, or why it cannot be loaded. -/
  loading : Except String Factory

namespace Registry

/-- The part of the log that the registry writes to. -/
def logger : String := "geoqtree.writers.registry"

/-- Factories by name, in the order in which their names were first announced. -/
abbrev Table := List (String × Factory)

/-- The factory under a name. -/
def Table.find? (table : Table) (name : String) : Option Factory :=
  (List.find? (fun e ↦ e.1 == name) table).map (·.2)

/-- A factory written under a name, which keeps its place when it is already there. -/
def Table.put : Table → String → Factory → Table
  | [], name, factory => [(name, factory)]
  | (n, f) :: rest, name, factory =>
    if n = name then (n, factory) :: rest else (n, f) :: Table.put rest name factory

/-- The writers that are always there. -/
def builtin : Table :=
  [("plan", .maker (some TileWriter.planSpec) (some (TileWriter.generatePlan .rounded)))]

/-- The warning that an announcement gives rise to, when it is left out. -/
def refusal? (a : Announcement) : Option LogRecord :=
  if (Table.find? builtin a.name).isSome then
    some (LogRecord.warning logger ("Ignoring plugin writer " ++ a.location ++
      ": the name is reserved for a built-in writer."))
  else
    match a.loading with
    | .ok _ => none
    | .error text =>
      some (LogRecord.warning logger
        ("Cannot import tile writer " ++ a.name ++ " (" ++ a.location ++ "): " ++ text))

/-- The table with one more announcement, unless it is left out. -/
def enrol (table : Table) (a : Announcement) : Table :=
  match refusal? a, a.loading with
  | none, .ok factory => table.put a.name factory
  | _, _ => table

/-- The table of all announcements. -/
def discover (announcements : List Announcement) : Table := announcements.foldl enrol builtin

/-- The warnings about announcements that are left out. -/
def discoveryLog (announcements : List Announcement) : List LogRecord :=
  announcements.filterMap refusal?

/-- The names of a table in order. -/
def names (table : Table) : List String := (table.map (·.1)).mergeSort (· ≤ ·)

/-- The writer that a factory makes. -/
def make (name : String) : Factory → Except Fault TileWriter
  | .value shown => .error (.config (.writerNotCallable name shown))
  | .maker (some spec) (some generate) => .ok ⟨spec, generate⟩
  | .maker spec generate =>
    .error (.config (.writerIncomplete name
      ((if spec.isNone then ["spec"] else []) ++ (if generate.isNone then ["generate"] else []))))

/-- The writer of a name. -/
def get (table : Table) (name : String) : Except Fault TileWriter :=
  match table.find? name with
  | some factory => make name factory
  | none => .error (.config (.unknownWriter name (names table)))

/-- Every writer that can be made, by name. -/
def list (table : Table) : List (String × TileWriter) :=
  table.filterMap fun (name, factory) ↦
    match make name factory with
    | .ok writer => some (name, writer)
    | .error _ => none

/-- The warnings about the factories that make no writer. -/
def listLog (table : Table) : List LogRecord :=
  table.filterMap fun (name, factory) ↦
    match make name factory with
    | .ok _ => none
    | .error fault => some (LogRecord.warning logger ("Skipping tile writer: " ++ fault.message))

end Registry

end QuadMosaic
