import QuadMosaic.Json.Reader
import QuadMosaic.Options.FromJson
import QuadMosaic.Schema.MosaicConfig
import QuadMosaic.Session.Files

/-!
# Configuration files
-/

namespace QuadMosaic

namespace MosaicOptions

/-- The fault of a configuration whose text has a defect. -/
def faultOf : Json.Defect → Fault
  | .malformed => .file .malformed
  | .tooDeep => .value .tooDeep
  | .tooLong => .value .badValue

/-- The members of a configuration, given its text and the name of its file. -/
def parseFile (name text : String) : Except Fault Fields :=
  match Json.parse text with
  | .error defect => .error (faultOf defect)
  | .ok (.obj fields) =>
    match Schema.mosaicConfig.check (.obj fields) with
    | none => .ok fields
    | some violation => .error (.config (.invalidFile name violation.cause.message))
  | .ok _ => .error (.config .notAnObject)

/-- The members of the configuration file at a path. -/
def readFile (files : Files) (path : Path) : Except Fault Fields := do
  let text ← files.readText path
  parseFile path.toString text

/-- The options that the configuration file at a path gives. -/
def loadFile (files : Files) (path : Path) : Except Fault MosaicOptions := do
  let fields ← readFile files path
  ofFields fields

end MosaicOptions

end QuadMosaic
