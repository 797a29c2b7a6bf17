import QuadMosaic.Raster.Source
import QuadMosaic.Text.Path

/-!
# Files

The files that a run reads and writes: texts and images by their path.  Writing a file needs the
directory it stands in, which is made on the way.
-/

namespace QuadMosaic

/-- An image file. -/
structure Image where
  pixels : Raster Float
  channel : ChannelType
  nodata : Option Float
  crs : Option Crs
  transform : Affine Float

/-- What a file holds. -/
inductive FileContent
  | text (s : String)
  | image (i : Image)

/-- The files and directories, and which files were written, in the order of their first writing. -/
structure Files where
  entries : List (Path × FileContent) := []
  directories : List Path := []
  written : List Path := []

namespace Files

/-- The greatest number of bytes of a component. -/
def componentLimit : Nat := 255

/-- The greatest number of bytes of a path. -/
def pathLimit : Nat := 4095

/-- Whether a resolved path is that of a directory: one above all others, one that was made, or one
that something stands in. -/
def holdsDirectory (files : Files) (p : Path) : Bool :=
  p.parts.all (· = "..") || files.directories.contains p ||
    files.entries.any fun e ↦ e.1.root = p.root && p.parts.isPrefixOf e.1.parts && e.1 ≠ p

/-- What the file at a resolved path holds. -/
def contentAt (files : Files) (p : Path) : Option FileContent :=
  (files.entries.find? fun e ↦ e.1 = p).map (·.2)

/-- One step down from a resolved path, which has to be that of a directory; two dots lead up. -/
def step (files : Files) (p : Path) (part : String) : Except Fault Path :=
  if (files.contentAt p).isSome then .error (.file .notADirectory)
  else if !files.holdsDirectory p then .error (.file .absent)
  else if componentLimit < part.utf8ByteSize then .error (.file .nameTooLong)
  else .ok (Path.resolved { p with parts := p.parts ++ [part] })

/-- The resolved path that a path leads to, every directory on the way being there. -/
def locate (files : Files) (path : Path) : Except Fault Path :=
  if path.toString.toList.contains '\x00' then .error (.value .badValue)
  else if pathLimit < path.toString.utf8ByteSize then .error (.file .nameTooLong)
  else path.parts.foldlM files.step { path with parts := [] }

/-- What the file at a path holds. -/
def find? (files : Files) (path : Path) : Option FileContent :=
  match files.locate path with
  | .ok p => files.contentAt p
  | .error _ => none

/-- Whether there is a file at a path. -/
def isFile (files : Files) (path : Path) : Bool := (files.find? path).isSome

/-- The files with a text at a path. -/
def put (files : Files) (path : Path) (content : FileContent) : Files :=
  let p := path.resolved
  { files with entries := (p, content) :: files.entries.filter fun e ↦ e.1 ≠ p }

/-- The text of the file at a path. -/
def readText (files : Files) (path : Path) : Except Fault String := do
  let p ← files.locate path
  match files.contentAt p with
  | some (.text s) => pure s
  | some (.image _) => throw (.value .undecodable)
  | none => throw (.file (if files.holdsDirectory p then .isADirectory else .absent))

/-- The files with a directory at a path whose own directory is there. -/
def enter (files : Files) (path : Path) : Except Fault Files := do
  let p ← files.locate path
  if (files.contentAt p).isSome then throw (.file .alreadyThere)
  else if files.holdsDirectory p then pure files
  else pure { files with directories := files.directories ++ [p] }

/-- The files with a directory at a path, and with those on the way to it. -/
def makeDirectory (files : Files) (path : Path) : Except Fault Files := do
  let files ← path.ancestors.foldlM (fun files ancestor ↦
    match files.enter ancestor with
    | .error (.file .alreadyThere) => .error (.file .notADirectory)
    | entered => entered) files
  files.enter path

/-- The files with a text written to a path whose directory exists. -/
def writeText (files : Files) (path : Path) (text : String) : Except Fault Files := do
  let p ← files.locate path
  if files.holdsDirectory p then throw (.file .isADirectory)
  pure { files.put p (.text text) with
    written := if files.written.contains p then files.written else files.written ++ [p] }

/-- The files with a text written to a path, its directory made first. -/
def write (files : Files) (path : Path) (text : String) : Except Fault Files := do
  let files ← files.makeDirectory path.parent
  files.writeText path text

/-- The files with a text added to the end of the one at a path, which is made when there is none.
An image stays as it is. -/
def append (files : Files) (path : Path) (text : String) : Except Fault Files := do
  let files ← files.makeDirectory path.parent
  match files.find? path with
  | some (.image _) => pure files
  | some (.text before) => files.writeText path (before ++ text)
  | none => files.writeText path text

/-- The image at a path, and what is known about it. -/
def openImage? (files : Files) (path : Path) : Option (RasterSource Float × Raster Float) :=
  match files.find? path with
  | some (.image i) =>
    let format := PixelFormat.ofBandCount i.pixels.bands
    some ({
        path
        format
        channel := i.channel
        cols := i.pixels.cols
        rows := i.pixels.rows
        bandCount := i.pixels.bands
        nodata := i.nodata
        crs := i.crs.map Crs.stored
        transform := i.transform },
      i.pixels.take format.usedBands)
  | _ => none

end Files

/-- An action that may write files. -/
abbrev Writing := EStateM Fault Files

namespace Writing

/-- A result that needs no file. -/
def ofExcept {β : Type} : Except Fault β → Writing β
  | .ok b => pure b
  | .error e => throw e

/-- A text written to a path, its directory made first. -/
def write (path : Path) (text : String) : Writing Unit := do
  let files ← get
  let files ← ofExcept (files.write path text)
  set files

end Writing

end QuadMosaic
