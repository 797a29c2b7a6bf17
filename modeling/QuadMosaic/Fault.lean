import QuadMosaic.Json.Display
import QuadMosaic.Profile

/-!
# What can go wrong

Every failure is a value that says its cause; `Fault.message` is the only place where causes are
worded.
-/

namespace QuadMosaic

/-- Options that are missing, invalid or exclude each other. -/
inductive ConfigFault
  | unknownProfile (shown : String)
  | unknownDatum (shown : String)
  | unknownProjection (shown : String)
  | radiusNotPositive
  | noSource
  | boundsForManyImages
  | noInput
  | plainForManyImages
  | moduleNameAbsent
  | aspectRatio (value : Int)
  | tileSize (value : Int)
  | resolutionNotPositive
  | channelType (shown : String)
  | incompleteBounds (missing : List String)
  | noPyramidResolution (profile : Profile)
  | noOutputGrid (profile : Profile)
  | profileWithoutModule (profile : Profile)
  | profileWithoutBox (profile : Profile)
  | noValidPixel
  | pixelRangeAbsent
  | notAnObject
  | invalidFile (path reason : String)
  | unknownWriter (name : String) (available : List String)
  | writerNotCallable (name shown : String)
  | writerIncomplete (name : String) (missing : List String)
  deriving DecidableEq, Repr

namespace ConfigFault

/-- The text of a configuration failure. -/
def message : ConfigFault → String
  | unknownProfile shown =>
    "Unknown profile: " ++ shown ++ " (expected one of " ++
      Text.joinWith ", " (Profile.all.map Profile.name) ++ ")"
  | unknownDatum shown => "Unknown datum override: " ++ shown
  | unknownProjection shown => "Unknown projection: " ++ shown
  | radiusNotPositive => "Sphere datum override requires a positive radius."
  | noSource => "At least one source is required."
  | boundsForManyImages => "Cannot override georeference information on multiple images."
  | noInput => "Need at least one input image."
  | plainForManyImages => "Non-georeferenced images cannot be composed."
  | moduleNameAbsent => "Uniview and Celestia require a module name."
  | aspectRatio value =>
    "Aspect ratio must be a positive power of two, got " ++ toString value ++ "."
  | tileSize value => "Tile size must be a positive power of two, got " ++ toString value ++ "."
  | resolutionNotPositive => "Global resolution must be positive."
  | channelType shown =>
    "Unsupported channel type: " ++ shown ++ " (expected one of uint8, uint16, int16, float32)"
  | incompleteBounds missing =>
    "If you provide one, you must provide all of: north, south, east, west (missing " ++
      Text.joinWith ", " missing ++ ")."
  | noPyramidResolution profile => "Profile " ++ profile.name ++ " has no pyramid resolution."
  | noOutputGrid profile => "Profile " ++ profile.name ++ " has no output georeference."
  | profileWithoutModule profile => "Profile " ++ profile.name ++ " requires a module name."
  | profileWithoutBox profile =>
    "Profile " ++ profile.name ++ " requires a lon/lat bounding box."
  | noValidPixel => "Normalization found no valid pixels in any source."
  | pixelRangeAbsent => "Normalization requires an observed pixel range."
  | notAnObject => "Mosaic config must be a JSON object."
  | invalidFile path reason => "Invalid mosaic config " ++ path ++ ": " ++ reason
  | unknownWriter name available =>
    "Unknown tile writer: " ++ name ++ " (available: " ++ Text.joinWith ", " available ++ ")"
  | writerNotCallable name shown =>
    "Tile writer " ++ name ++ " is registered with a non-callable " ++ shown ++ "."
  | writerIncomplete name missing =>
    "Tile writer " ++ name ++ " does not implement " ++ Text.joinWith ", " missing ++ "()."

end ConfigFault

/-- A source or a pyramid that has no usable place on the globe. -/
inductive GeoreferenceFault
  | absent (path : String)
  | outsideExtent
  deriving DecidableEq, Repr

namespace GeoreferenceFault

/-- The text of a georeference failure. -/
def message : GeoreferenceFault → String
  | absent path => "Missing georeference for " ++ path ++ "; provide north, south, east and west."
  | outsideExtent => "Composite has no pixels inside the output extent."

end GeoreferenceFault

/-- A projection without a parameter that it needs, or with one that cannot be. -/
inductive ProjectionFault
  | parameterAbsent (projection parameter : String)
  | utmZone
  | invalidParameters (params : Fields)
  deriving Repr

namespace ProjectionFault

/-- The text of a projection failure. -/
def message : ProjectionFault → String
  | parameterAbsent projection parameter =>
    "Projection " ++ projection ++ " requires '" ++ parameter ++ "'."
  | utmZone => "Projection utm requires a zone in [-60, -1] or [1, 60]."
  | invalidParameters params => "Invalid projection parameters: " ++ (Json.obj params).quoted

end ProjectionFault

/-- An array of another shape than a canvas takes, or a shape that no array has. -/
inductive ShapeFault
  | other (bands : Int) (found : List Nat)
  | lengthOutOfRange
  | negativeLength
  | tooLarge
  deriving DecidableEq, Repr

namespace ShapeFault

/-- The text of an array's shape: a list in parentheses, a single number followed by a comma. -/
def shapeText : List Nat → String
  | [n] => "(" ++ toString n ++ ",)"
  | dims => "(" ++ Text.joinWith ", " (dims.map toString) ++ ")"

/-- The text of a failure of shape. -/
def message : ShapeFault → String
  | other bands found =>
    "Expected a (" ++ toString bands ++ ", rows, cols) array, got shape " ++ shapeText found ++ "."
  | lengthOutOfRange => "Maximum allowed dimension exceeded"
  | negativeLength => "negative dimensions are not allowed"
  | tooLarge =>
    "array is too big; `arr.size * arr.dtype.itemsize` is larger than the maximum possible size."

end ShapeFault

/-- A canvas used out of order, or with an array of the wrong shape. -/
inductive CanvasFault
  | insertAfterPrepare
  | preparedTwice
  | readBeforePrepare
  | shape (cause : ShapeFault)
  deriving DecidableEq, Repr

namespace CanvasFault

/-- The text of a canvas failure. -/
def message : CanvasFault → String
  | insertAfterPrepare => "Cannot insert into a prepared composite."
  | preparedTwice => "Composite has already been prepared."
  | readBeforePrepare => "Composite must be prepared before reading."
  | shape cause => cause.message

end CanvasFault

/-- A value that an operation cannot take. -/
inductive ValueFault
  | badValue
  | badKind
  | outOfRange
  | divisionByZero
  | noSuchField
  | noSuchKey
  | noSuchIndex
  | noMoreValues
  | undecodable
  | tooDeep
  | outOfMemory
  | notInvertible
  | unknownReferenceSystem
  | unrelatedBodies
  deriving DecidableEq, Repr

/-- A file that cannot be read or written. -/
inductive FileFault
  | absent
  | alreadyThere
  | notADirectory
  | isADirectory
  | nameTooLong
  | malformed
  deriving DecidableEq, Repr

namespace FileFault

/-- The text of a file failure. -/
def message : FileFault → String
  | absent => "there is no such file"
  | alreadyThere => "a file stands where a directory is needed"
  | notADirectory => "a file stands on the way"
  | isADirectory => "a directory stands where a file is needed"
  | nameTooLong => "a name on the way is too long"
  | malformed => "the file holds no structured data"

end FileFault

/-- Everything that can go wrong. -/
inductive Fault
  | config (cause : ConfigFault)
  | georeference (cause : GeoreferenceFault)
  | projection (cause : ProjectionFault)
  | unreadableRaster (path : String)
  | canvas (cause : CanvasFault)
  | schema (reason : String)
  | value (cause : ValueFault)
  | file (cause : FileFault)
  deriving Repr

namespace Fault

/-- Whether a failure belongs to the program's own vocabulary, and so ends a run with an error
line. -/
def isOwn : Fault → Bool
  | config _ | georeference _ | projection _ | unreadableRaster _ => true
  | _ => false

/-- The text of a failure; the ones without words of their own have none. -/
def message : Fault → String
  | config cause => cause.message
  | georeference cause => cause.message
  | projection cause => cause.message
  | unreadableRaster path => "Unable to read raster source: " ++ path
  | canvas cause => cause.message
  | schema reason => reason
  | value _ => ""
  | file cause => cause.message

end Fault

end QuadMosaic
