import QuadMosaic.CommandLine.Invocation
import QuadMosaic.Options.File
import QuadMosaic.Options.Merge
import QuadMosaic.Run.Report
import QuadMosaic.Schema.MosaicReport
import QuadMosaic.Session.Console

/-!
# The program

Every command is an action of a session.  Failures that the program has words for end a command with
an error line and the code 1.
-/

namespace QuadMosaic

/-- What a command prints. -/
inductive Printed
  | lines (lines : List String)
  | data (value : Json)

/-- The text that is printed. -/
def Printed.text : Printed → String
  | lines ls => String.join (ls.map (· ++ "\n"))
  | data value => value.document ++ "\n"

/-- What a command printed and the code it ended with. -/
structure Outcome where
  printed : Printed := .lines []
  code : UInt8

namespace Program

/-- The version of the program. -/
def version : String := "0.1.0"

/-- The part of the log that the commands write to. -/
def logger : String := "geoqtree.cli"

/-! ## What an invocation reads -/

/-- The texts that an invocation reads: its configuration, and a log that is there already. -/
def textPaths (invocation : Invocation) : List Path :=
  let config :=
    match invocation.command with
    | .mosaic flags => flags.config.toList
    | _ => []
  (config.filter (!·.isEmpty)).map Path.ofString ++ invocation.log.logFile.toList

/-! ## Making a pyramid -/

/-- The configuration that flags are laid over. -/
def baseFields (files : Files) (flags : MosaicFlags) : Except Fault Fields :=
  match flags.config with
  | none => .ok []
  | some name => if name.isEmpty then .ok [] else MosaicOptions.readFile files (Path.ofString name)

/-- The options that flags and a configuration file give. -/
def mosaicOptions (files : Files) (flags : MosaicFlags) : Except Fault MosaicOptions := do
  let base ← baseFields files flags
  let fields ← Fields.merge base flags.toFields
  MosaicOptions.ofFields fields

/-- The images that a command reads, given the texts. -/
def imagePaths (files : Files) : Command → List Path
  | .mosaic flags => ((mosaicOptions files flags).map (·.inputs)).toOption.getD []
  | .inspect inputs => inputs.map Path.ofString
  | _ => []

/-- Where the report goes: beside the pyramid, unless a flag says otherwise. -/
def reportPath (flags : MosaicFlags) (outputName : Json) : Path :=
  match flags.report with
  | none => Path.ofString (outputName.display ++ ".report.json")
  | some name =>
    Path.ofString (if name.isEmpty then outputName.display ++ ".report.json" else name)

/-- A report that obeys its schema; a failure otherwise. -/
def checkedReport (result : MosaicResult) (instant : String) : Except Fault Json := do
  let report ← result.report (instant ++ "+00:00")
  match Schema.mosaicReport.check report with
  | none => pure report
  | some violation => .error (.schema violation.cause.message)

/-- The warning that a run gave a warning. -/
def runWarning (text : String) : LogRecord := LogRecord.warning logger ("Mosaic warning: " ++ text)

/-- A pyramid made and reported on. -/
def mosaic (engine : Engine Float) (rule : ResolutionRule Float) (instant : String)
    (flags : MosaicFlags) : Task Printed := do
  let s ← get
  let options ← Task.ofExcept (mosaicOptions s.files flags)
  let result ← Mosaic.run engine rule options
  let report ← Task.ofExcept (checkedReport result instant)
  Task.onFiles (Writing.write (reportPath flags result.job.outputName) report.document)
  Task.logAll (result.warnings.map runWarning)
  pure (.lines [])

/-! ## The other commands -/

/-- What is known about the image at a path, and whether it spans the globe. -/
def inspectOne (engine : Engine Float) (name : String) : Except Fault Json := do
  let source ← engine.openAt (Path.ofString name)
  let global ←
    match source.georeference? with
    | none => .ok false
    | some g => g.isGlobal engine.project source.cols source.rows
  pure (.obj (source.toFields ++ [("global", .bool global)]))

/-- What is known about images. -/
def inspect (engine : Engine Float) (inputs : List String) : Except Fault Printed := do
  let entries ← inputs.mapM (inspectOne engine)
  pure (.data (.arr entries))

/-- One writer on a line of its own. -/
def writerLine (name : String) (spec : WriterSpec) : String :=
  name ++ "\t" ++ spec.version.display ++ "\t" ++ spec.description

/-- The tile writers in the order of their names. -/
def writers : Task Printed := do
  let found ← Task.listWriters
  let sorted := found.mergeSort fun a b ↦ a.1 ≤ b.1
  pure (.lines (sorted.map fun (name, writer) ↦ writerLine name writer.spec))

/-- What a command does. -/
def perform (engine : Engine Float) (rule : ResolutionRule Float) (instant : String) :
    Command → Task Printed
  | .mosaic flags => mosaic engine rule instant flags
  | .inspect inputs => Task.ofExcept (inspect engine inputs)
  | .writers => writers
  | .version => pure (.lines [version])

/-! ## Failures -/

/-- The error line of a failure that ends a command in good order. -/
def errorText? (fault : Fault) : Option String :=
  match fault with
  | .schema reason => some ("Report failed validation: " ++ reason)
  | .file cause => some ("Failed to read or write files: " ++ cause.message)
  | _ => if fault.isOwn then some fault.message else none

/-- An action that ends with an error line where it fails, as far as there are words for the
failure. -/
def guarded (action : Task Printed) : Task Outcome := fun s ↦
  match action s with
  | .ok printed s => .ok { printed, code := 0 } s
  | .error fault s =>
    match errorText? fault with
    | some text => .ok { code := 1 } { s with log := LogRecord.error logger text :: s.log }
    | none => .error fault s

/-- An invocation from its beginning to its end. -/
def run (engine : Engine Float) (rule : ResolutionRule Float) (instant : String)
    (invocation : Invocation) : Task Outcome :=
  Task.logged invocation.log instant
    (guarded (perform engine rule instant invocation.command))

/-- The outcome of a command line that could not be read to its end. -/
def stopped : Stop → Outcome
  | .help => { code := 0 }
  | .version => { printed := .lines [version], code := 0 }
  | .usage => { code := 2 }

end Program

end QuadMosaic
