import QuadMosaic.CommandLine.Program
import QuadMosaic.Run.Engine
import QuadMosaic.Described.Image
import QuadMosaic.Text.Instant
import Std.Time.DateTime.Timestamp

/-!
# The command line

What an invocation reads is taken from the disk, the invocation is performed in memory, and what it
wrote is put on the disk.  Images are read from the texts that describe them.
-/

namespace QuadMosaic

namespace Disk

/-- The text of a file; nothing when there is none, or when it is no text. -/
def readText? (path : Path) : IO (Option String) := do
  try
    let bytes ← IO.FS.readBinFile path.toString
    pure (String.fromUTF8? bytes)
  catch _ => pure none

/-- The files with the text at a path. -/
def loadText (files : Files) (path : Path) : IO Files := do
  match ← readText? path with
  | some text => pure (files.put path (.text text))
  | none => pure files

/-- The files with the image at a path, or with the text there when it describes no image. -/
def loadImage (files : Files) (path : Path) : IO Files := do
  if files.isFile path then return files
  match ← readText? path with
  | some text => pure (files.put path ((Image.ofText? text).elim (.text text) .image))
  | none => pure files

/-- The files that an invocation reads. -/
def load (invocation : Invocation) : IO Files := do
  let files ← (Program.textPaths invocation).foldlM loadText {}
  (Program.imagePaths files invocation.command).foldlM loadImage files

/-- The text at a path put on the disk. -/
def store (files : Files) (path : Path) : IO Unit := do
  match files.find? path with
  | some (.text text) =>
    IO.FS.createDirAll path.parent.toString
    IO.FS.writeFile path.toString text
  | _ => pure ()

end Disk

namespace CommandLine

/-- The time of day. -/
def now : IO String := do
  let t ← Std.Time.Timestamp.now
  pure (Instant.text t.toSecondsSinceUnixEpoch.val)

/-- An outcome shown, and its code. -/
def finish (outcome : Outcome) : IO UInt32 := do
  IO.print outcome.printed.text
  pure outcome.code.toUInt32

/-- The log shown and the files written put on the disk. -/
def settle (options : LogOptions) (instant : String) (s : Session) : IO Unit := do
  (options.console instant s.log).forM (IO.eprintln ·)
  s.files.written.forM (Disk.store s.files)

/-- An invocation performed. -/
def perform (invocation : Invocation) : IO UInt32 := do
  let instant ← now
  let files ← Disk.load invocation
  let engine := Engine.ofFiles files
  match Program.run engine (Resolution.geodetic Crs.transform) instant invocation { files } with
  | .ok outcome s =>
    settle invocation.log instant s
    finish outcome
  | .error fault s =>
    settle invocation.log instant s
    IO.eprintln fault.message
    pure 1

end CommandLine

end QuadMosaic

/-- The program on its arguments. -/
def main (args : List String) : IO UInt32 := do
  match QuadMosaic.Invocation.parse args with
  | .error stop => QuadMosaic.CommandLine.finish (QuadMosaic.Program.stopped stop)
  | .ok invocation =>
    try QuadMosaic.CommandLine.perform invocation
    catch e =>
      IO.eprintln e.toString
      pure 1
