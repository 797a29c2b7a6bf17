import QuadMosaic.CommandLine.MosaicFlags
import QuadMosaic.Log.Format

/-!
# Invocations

A command line names one command, with options of the program before it and options of its own after
it.
-/

namespace QuadMosaic

/-- The commands of the program. -/
inductive Command
  /-- Make a pyramid. -/
  | mosaic (flags : MosaicFlags)
  /-- Print what is known about images. -/
  | inspect (inputs : List String)
  /-- List the tile writers. -/
  | writers
  /-- Print the version. -/
  | version

/-- A command and how the log is written. -/
structure Invocation where
  log : LogOptions
  command : Command

namespace Invocation

/-- How the log is written, as the options of the program say. -/
def logGrammar : Grammar LogOptions := [
  MosaicFlags.help,
  ⟨none, "version", .stop .version⟩,
  ⟨some 'v', "verbose", .flag fun o ↦ { o with verbose := o.verbose + 1 }⟩,
  ⟨none, "quiet", .flag fun o ↦ { o with quiet := true }⟩,
  ⟨none, "log-json", .flag fun o ↦ { o with jsonConsole := true }⟩,
  ⟨none, "log-file", .value fun given o ↦
    some { o with logFile := (given.filter (· ≠ "")).map Path.ofString }⟩]

/-- The words of a command that has no option but help. -/
def plainWords (words : List String) : Except Stop (Reading Unit) :=
  Reading.ofWords [MosaicFlags.help] () words

/-- The command that a name and the words after it give, and whether a word was not understood. -/
def readCommand (name : String) (words : List String) : Except Stop (Command × Bool) :=
  match name with
  | "mosaic" => do
    let r ← Reading.ofWords MosaicFlags.grammar {} words
    pure (.mosaic { r.settings with inputs := r.plain.words }, r.unknown)
  | "inspect" => do
    let r ← plainWords words
    if r.plain.words.isEmpty then throw .usage
    pure (.inspect r.plain.words, r.unknown)
  | "writers" => do
    let r ← plainWords words
    pure (.writers, r.unknown || r.plain != .untouched)
  | "version" => do
    let r ← plainWords words
    pure (.version, r.unknown || r.plain != .untouched)
  | _ => throw .usage

/-- The invocation that a command line gives. -/
def parse (words : List String) : Except Stop Invocation := do
  let (head, rest) ← Reading.ofHead logGrammar {} words
  match rest with
  | [] => throw .usage
  | name :: words =>
    let (command, unknown) ← readCommand name words
    if head.unknown || unknown then throw .usage
    pure ⟨head.settings, command⟩

end Invocation

end QuadMosaic
