import QuadMosaic.Log.Format
import QuadMosaic.Session.Basic

/-!
# Where the log goes

The log is shown on the console, and it may be kept in a file as well, where each line is data.
-/

namespace QuadMosaic

namespace LogOptions

/-- A line of the log on the console; nothing when it is below the level that is shown. -/
def consoleLine? (o : LogOptions) (instant : String) (record : LogRecord) : Option String :=
  if record.level < o.consoleLevel then none
  else if o.jsonConsole then some (record.toJson (instant ++ "Z")).line
  else record.toHuman.toOption

/-- The log on the console, its first line first. -/
def console (o : LogOptions) (instant : String) (log : List LogRecord) : List String :=
  log.reverse.filterMap (o.consoleLine? instant)

/-- The log in a file, its first line first. -/
def fileText (instant : String) (log : List LogRecord) : String :=
  String.join (log.reverse.map fun record ↦ (record.toJson (instant ++ "Z")).line ++ "\n")

end LogOptions

namespace Task

/-- A text added to a file of the session. -/
def append (path : Path) (text : String) : Task Unit := do
  let s ← get
  let files ← ofExcept (s.files.append path text)
  set { s with files }

/-- The session with its log kept in a file; a file that cannot be written to is left as it is. -/
def keepLog (path : Path) (instant : String) (s : Session) : Session :=
  match s.files.append path (LogOptions.fileText instant s.log) with
  | .ok files => { s with files }
  | .error _ => s

/-- An action whose log is kept in a file, if there is one to keep it in.  The file is there from
the beginning, and it is kept whether the action succeeds or fails. -/
def logged {β : Type} (options : LogOptions) (instant : String) (action : Task β) : Task β :=
  match options.logFile with
  | none => action
  | some path => do
    append path ""
    fun s ↦
      match action s with
      | .ok b s => .ok b (keepLog path instant s)
      | .error fault s => .error fault (keepLog path instant s)

end Task

end QuadMosaic
