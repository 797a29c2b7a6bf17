import QuadMosaic.Grid.Quantity
import QuadMosaic.Json.Printer
import QuadMosaic.Log.Record
import QuadMosaic.Log.Template
import QuadMosaic.Text.Path

/-!
# The text of log lines

A line of the log is written for people, with the image it is about in front, or as data.
-/

namespace QuadMosaic

/-- What a line of the log is made of.  Further facts take the place of what the line has of its own
under the same key. -/
structure LogEvent where
  /-- How serious the event is. -/
  level : Json
  /-- The part of the program that speaks. -/
  logger : Json
  /-- The message, or the template for it. -/
  message : Json
  /-- The values that are put into the message. -/
  args : List Json := []
  /-- The file and the line that speak. -/
  file : Path := Path.ofString ""
  line : Int := 0
  /-- Further facts about the event. -/
  extra : Fields := []
  /-- What went wrong. -/
  exception : Option String := none

namespace LogEvent

/-- The levels that have names. -/
def levelNames : List (Int × String) :=
  [(0, "NOTSET"), (10, "DEBUG"), (20, "INFO"), (30, "WARNING"), (40, "ERROR"), (50, "CRITICAL")]

/-- The name of a level. -/
def levelName (level : Json) : String :=
  let named : Option (Int × String) :=
    match Quantity.ofJson level with
    | .ok q => levelNames.find? fun n ↦ Coordinate.same q (.whole n.1)
    | .error _ => none
  (named.map (·.2)).getD ("Level " ++ level.display)

/-- The numbers of the levels by their names. -/
def levelNumbers : List (String × Int) :=
  [("CRITICAL", 50), ("FATAL", 50), ("ERROR", 40), ("WARN", 30), ("WARNING", 30), ("INFO", 20),
    ("DEBUG", 10), ("NOTSET", 0)]

/-- The other side of a level: the name of a number, and the number of a name. -/
def levelFact (level : Json) : Json :=
  match level with
  | .str name => ((levelNumbers.find? fun n ↦ n.1 = name).map fun n ↦ Json.int n.2).getD
      (.str (levelName level))
  | _ => .str (levelName level)

/-- What an event has of its own, as far as it does not depend on where and when it happens. -/
def ownFacts (e : LogEvent) : Fields :=
  [("name", e.logger), ("msg", e.message), ("args", .arr e.args),
    ("levelname", levelFact e.level), ("levelno", e.level),
    ("pathname", .str e.file.toString), ("filename", .str e.file.name),
    ("module", .str (String.ofList (Path.stemOf e.file.name.toList))), ("exc_info", .null),
    ("exc_text", .null), ("stack_info", .null), ("lineno", .int e.line), ("funcName", .null),
    ("threadName", .str "MainThread"), ("processName", .str "MainProcess")]

/-- The keys of what any event has of its own. -/
def ownKeys : List String :=
  ["name", "msg", "args", "levelname", "levelno", "pathname", "filename", "module", "exc_info",
    "exc_text", "stack_info", "lineno", "funcName", "created", "msecs", "relativeCreated", "thread",
    "threadName", "processName", "process", "message", "asctime"]

/-- What an event has of its own with its further facts. -/
def facts (e : LogEvent) : Fields := Fields.overlay e.ownFacts e.extra

/-- The message, its values put in. -/
def text (e : LogEvent) : Except Fault String :=
  let template := (e.facts.getD "msg").display
  match e.extra.get? "args" with
  | some args => if args.isGiven then Template.apply template (.single args) else .ok template
  | none => Template.message template e.args

/-- What went wrong.  A further fact may deny it; one that claims something else has to hold what
went wrong in its third place. -/
def failure? (e : LogEvent) : Except Fault (Option String) :=
  match e.extra.get? "exc_info" with
  | none => .ok e.exception
  | some given =>
    if !given.isGiven then .ok none
    else
      match given with
      | .obj _ => .error (.value .noSuchKey)
      | .arr items => .error (.value (if items.length < 3 then .noSuchIndex else .noSuchField))
      | .str s => .error (.value (if s.length < 3 then .noSuchIndex else .noSuchField))
      | _ => .error (.value .badKind)

/-- The layout of a line for people. -/
def humanTemplate : String := "%(levelname)s: %(message)s"

/-- The layout of a line that is its message alone. -/
def plainTemplate : String := "%(message)s"

/-- A text on a line of its own after a text. -/
def addLine (body : String) (added : Json) : Except Fault String :=
  if !added.isGiven then .ok body
  else
    match added with
    | .str s => .ok (if body.endsWith "\n" then body ++ s else body ++ "\n" ++ s)
    | _ => .error (.value .badKind)

/-- The line for people: its layout filled, then what went wrong and where on lines of their own,
and in front the image that it is about. -/
def toHuman (e : LogEvent) (template : String := humanTemplate) : Except Fault String := do
  let template := if template.isEmpty then plainTemplate else template
  if !Template.hasField template.toList then throw (.value .badValue)
  let message ← e.text
  let facts := e.facts.put "message" (.str message)
  let line ← Template.applyFields template facts
  let stated := facts.getD "exc_text"
  let failure ← if stated.isGiven then pure stated else Json.ofOption .str <$> e.failure?
  let line ← addLine line failure
  let body ← addLine line (facts.getD "stack_info")
  let source := e.extra.getD "source"
  pure (if source.isGiven then "[" ++ source.display ++ "] " ++ body else body)

/-- A line as data, with the time when it was written. -/
def lineToJson (timestamp level : String) (logger : Json) (message : String) (extra : Fields)
    (exception : Option String) : Json :=
  .obj ([("timestamp", .str timestamp), ("level", .str level), ("logger", logger),
    ("message", .str message)] ++
    (if extra.isEmpty then [] else [("extra", .obj extra)]) ++
    (match exception with
      | none => []
      | some text => [("exception", .str text)]))

/-- The line as data: what the event has of its own is not repeated among the further facts. -/
def toJson (e : LogEvent) (timestamp : String) : Except Fault Json := do
  match e.facts.getD "levelname" with
  | .str level =>
    let message ← e.text
    pure (lineToJson timestamp (Text.lower level) (e.facts.getD "name") message
      (e.extra.filter fun f ↦ !ownKeys.contains f.1) (← e.failure?))
  | _ => throw (.value .noSuchField)

end LogEvent

namespace LogRecord

/-- The event that a record is of. -/
def toEvent (r : LogRecord) : LogEvent where
  level := .int r.level
  logger := .str r.logger
  message := .str r.message
  extra := r.extra

/-- The name of the level of a record. -/
def levelName (r : LogRecord) : String := LogEvent.levelName (.int r.level)

/-- The line for people. -/
def toHuman (r : LogRecord) : Except Fault String := r.toEvent.toHuman

/-- The line as data, with the time when it was written. -/
def toJson (r : LogRecord) (timestamp : String) : Json :=
  LogEvent.lineToJson timestamp (Text.lower r.levelName) (.str r.logger) r.message r.extra none

end LogRecord

/-- How the log is written. -/
structure LogOptions where
  verbose : Int := 0
  quiet : Bool := false
  /-- A file that the log is also written to, as data. -/
  logFile : Option Path := none
  jsonConsole : Bool := false

namespace LogOptions

/-- The least level that is shown on the console. -/
def consoleLevel (o : LogOptions) : Int :=
  if o.quiet then 30 else if 0 < o.verbose then 10 else 20

/-- The least level of the packages that talk much. -/
def noisyLevel (o : LogOptions) : Int := if 1 < o.verbose then 10 else 30

end LogOptions

end QuadMosaic
