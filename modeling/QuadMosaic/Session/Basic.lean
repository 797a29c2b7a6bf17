import QuadMosaic.Compose.Engine
import QuadMosaic.Tiles.Registry

/-!
# Sessions

A session is everything that the stages of a run share: the files, the log, and the writers that
other packages announce.  Announcements are looked through once and remembered until a refresh.
-/

namespace QuadMosaic

/-- What the stages of a run share. -/
structure Session where
  files : Files := {}
  /-- The log, its last line first. -/
  log : List LogRecord := []
  /-- What other packages announce. -/
  announcements : List Announcement := []
  /-- The writers found, once they have been looked for. -/
  writers : Option Registry.Table := none

/-- An action of a session. -/
abbrev Task := EStateM Fault Session

namespace Task

/-- A result that needs no session. -/
def ofExcept {β : Type} : Except Fault β → Task β
  | .ok b => pure b
  | .error e => throw e

/-- An action on the files of the session. -/
def onFiles {β : Type} (action : Writing β) : Task β := fun s ↦
  match action s.files with
  | .ok b files => .ok b { s with files }
  | .error e files => .error e { s with files }

/-- An action that writes to the log alone. -/
def ofLogging {β : Type} (action : Logging β) : Task β := fun s ↦
  match action s.log with
  | .ok b log => .ok b { s with log }
  | .error e log => .error e { s with log }

/-- Lines added to the log. -/
def logAll (records : List LogRecord) : Task Unit :=
  modify fun s ↦ { s with log := records.reverse ++ s.log }

/-- The table of writers, looked for the first time. -/
def writers : Task Registry.Table := do
  let s ← get
  match s.writers with
  | some table => pure table
  | none =>
    let table := Registry.discover s.announcements
    set { s with
      writers := some table, log := (Registry.discoveryLog s.announcements).reverse ++ s.log }
    pure table

/-- The writers forgotten, so that the next look-up goes through the announcements again. -/
def refreshWriters : Task Unit := modify fun s ↦ { s with writers := none }

/-- The names of all writers in order. -/
def writerNames : Task (List String) := do
  let table ← writers
  pure (Registry.names table)

/-- The writer of a name. -/
def writer (name : String) : Task TileWriter := do
  let table ← writers
  ofExcept (Registry.get table name)

/-- Every writer that can be made, with a warning about the others. -/
def listWriters : Task (List (String × TileWriter)) := do
  let table ← writers
  logAll (Registry.listLog table)
  pure (Registry.list table)

end Task

end QuadMosaic
