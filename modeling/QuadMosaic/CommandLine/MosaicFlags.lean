import QuadMosaic.CommandLine.Arguments
import QuadMosaic.Crs.Datum
import QuadMosaic.Crs.Spec
import QuadMosaic.Decimal.Reading
import QuadMosaic.Options.Basic

/-!
# The flags of the mosaic command

Each flag stands for one option of a configuration, and the flags given are laid over the
configuration file as a configuration of their own.
-/

namespace QuadMosaic

/-- The value of a flag. -/
inductive FlagValue (α : Type)
  | of (value : α)
  /-- No value at all, which the two hyphens in the word of a flag stand for. -/
  | empty

/-- The value of a flag as data; no value is an empty list. -/
def FlagValue.toJson {α : Type} (f : α → Json) : FlagValue α → Json
  | of v => f v
  | empty => .arr []

/-- The flags given to the mosaic command.  A flag of the configuration file, the report or the
projection without a value is not given. -/
structure MosaicFlags where
  inputs : List String := []
  /-- The configuration file that the flags are laid over. -/
  config : Option String := none
  /-- Where the report goes. -/
  report : Option String := none
  outputName : Option (FlagValue String) := none
  mode : Option (FlagValue String) := none
  fileType : Option (FlagValue String) := none
  channelType : Option (FlagValue String) := none
  tileSize : Option (FlagValue Int) := none
  aspectRatio : Option (FlagValue Int) := none
  globalResolution : Option (FlagValue Int) := none
  writer : Option (FlagValue String) := none
  datum : Option (FlagValue String) := none
  sphereRadius : Option (FlagValue Float) := none
  projection : Option String := none
  projLat : Option (FlagValue Float) := none
  projLon : Option (FlagValue Float) := none
  projScale : Option (FlagValue Float) := none
  stdParallel1 : Option (FlagValue Float) := none
  stdParallel2 : Option (FlagValue Float) := none
  utmZone : Option (FlagValue Int) := none
  north : Option (FlagValue Float) := none
  south : Option (FlagValue Float) := none
  east : Option (FlagValue Float) := none
  west : Option (FlagValue Float) := none
  wholeGlobe : Bool := false
  nudgeX : Option (FlagValue Float) := none
  nudgeY : Option (FlagValue Float) := none
  nodata : Option (FlagValue Float) := none
  pixelScale : Option (FlagValue Float) := none
  pixelOffset : Option (FlagValue Float) := none
  normalize : Bool := false
  multiband : Bool := false
  maxLodPixels : Option (FlagValue Int) := none
  drawOrderOffset : Option (FlagValue Int) := none
  terrain : Bool := false
  moduleName : Option (FlagValue String) := none

namespace MosaicFlags

/-! ## The configuration that flags stand for -/

/-- The member that a flag stands for, if it is given. -/
def given {α : Type} (key : String) (f : α → Json) : Option (FlagValue α) → Fields
  | some v => [(key, v.toJson f)]
  | none => []

/-- The member that a switch stands for, if it is on. -/
def switch (key : String) (on : Bool) : Fields := if on then [(key, .bool true)] else []

/-- A member with further members, unless there are none. -/
def group (key : String) (members : Fields) : Fields :=
  if members.isEmpty then [] else [(key, .obj members)]

/-- The projection that the flags name; its numbers count only when it is named. -/
def projectionFields (f : MosaicFlags) : Fields :=
  match f.projection with
  | none => []
  | some kind =>
    [("type", .str kind)] ++ given "lat" .real f.projLat ++ given "lon" .real f.projLon ++
      given "scale" .real f.projScale ++ given "p1" .real f.stdParallel1 ++
      given "p2" .real f.stdParallel2 ++ given "utm_zone" .int f.utmZone

/-- The edges that the flags give. -/
def edgeFields (f : MosaicFlags) : Fields :=
  given "north" .real f.north ++ given "south" .real f.south ++ given "east" .real f.east ++
    given "west" .real f.west

/-- The georeference options that the flags give. -/
def georeferenceFields (f : MosaicFlags) : Fields :=
  given "datum" .str f.datum ++ given "sphere_radius" .real f.sphereRadius ++
    given "nudge_x" .real f.nudgeX ++ given "nudge_y" .real f.nudgeY ++
    group "projection" f.projectionFields ++ group "bounds" f.edgeFields ++
    switch "global" f.wholeGlobe

/-- The pixel options that the flags give. -/
def pixelFields (f : MosaicFlags) : Fields :=
  given "nodata" .real f.nodata ++ given "pixel_scale" .real f.pixelScale ++
    given "pixel_offset" .real f.pixelOffset ++ switch "normalize" f.normalize

/-- The inputs that the flags give. -/
def inputFields (f : MosaicFlags) : Fields :=
  if f.inputs.isEmpty then [] else [("inputs", Json.ofList .str f.inputs)]

/-- The configuration that the flags stand for. -/
def toFields (f : MosaicFlags) : Fields :=
  f.inputFields ++ given "output_name" .str f.outputName ++ given "profile" .str f.mode ++
    given "aspect_ratio" .int f.aspectRatio ++
    given "global_resolution" .int f.globalResolution ++ given "tile_size" .int f.tileSize ++
    given "file_type" .str f.fileType ++ given "channel_type" .str f.channelType ++
    given "max_lod_pixels" .int f.maxLodPixels ++
    given "draw_order_offset" .int f.drawOrderOffset ++
    given "module_name" .str f.moduleName ++ given "writer" .str f.writer ++
    group "georeference" f.georeferenceFields ++ group "pixels" f.pixelFields ++
    switch "multiband" f.multiband ++ switch "terrain" f.terrain

/-! ## The grammar -/

/-- A flag that takes a value which is read from a text, or no value. -/
def reading {α : Type} (long : String) (read : String → Option α)
    (set : FlagValue α → MosaicFlags → MosaicFlags) (short : Option Char := none) :
    OptionSpec MosaicFlags :=
  ⟨short, long, .value fun given f ↦
    match given with
    | some s => (read s).map fun v ↦ set (.of v) f
    | none => some (set .empty f)⟩

/-- A flag that takes any text. -/
def text (long : String) (set : FlagValue String → MosaicFlags → MosaicFlags)
    (short : Option Char := none) : OptionSpec MosaicFlags :=
  reading long some set short

/-- A flag that takes any text and is not given when it has none. -/
def name (long : String) (set : Option String → MosaicFlags → MosaicFlags) :
    OptionSpec MosaicFlags :=
  ⟨none, long, .value fun given f ↦ some (set given f)⟩

/-- A text if it is one of a few words. -/
def chosen (choices : List String) (s : String) : Option String :=
  if choices.contains s then some s else none

/-- A flag that takes one of a few words. -/
def word (long : String) (choices : List String)
    (set : FlagValue String → MosaicFlags → MosaicFlags) (short : Option Char := none) :
    OptionSpec MosaicFlags :=
  reading long (chosen choices) set short

/-- A flag that takes an integer. -/
def integer (long : String) (set : FlagValue Int → MosaicFlags → MosaicFlags) :
    OptionSpec MosaicFlags :=
  reading long Decimal.readInt? set

/-- A flag that takes a number. -/
def number (long : String) (set : FlagValue Float → MosaicFlags → MosaicFlags) :
    OptionSpec MosaicFlags :=
  reading long Decimal.readFloat? set

/-- The projections that can be named. -/
def projections : List String := "none" :: ProjectionKind.all.map ProjectionKind.name

/-- A flag that stands alone. -/
def lever (long : String) (set : MosaicFlags → MosaicFlags) : OptionSpec MosaicFlags :=
  ⟨none, long, .flag set⟩

/-- The flag that asks for help. -/
def help {σ : Type} : OptionSpec σ := ⟨some 'h', "help", .stop .help⟩

/-- The flags about the run as a whole. -/
def runGrammar : Grammar MosaicFlags := [
  help,
  name "config" fun s f ↦ { f with config := s },
  text "output-name" (fun s f ↦ { f with outputName := some s }) (some 'o'),
  word "mode" (Profile.all.map Profile.name) (fun s f ↦ { f with mode := some s }) (some 'm'),
  text "file-type" fun s f ↦ { f with fileType := some s },
  word "channel-type" (MosaicOptions.outputChannels.map ChannelType.name) fun s f ↦
    { f with channelType := some s },
  integer "tile-size" fun n f ↦ { f with tileSize := some n },
  integer "aspect-ratio" fun n f ↦ { f with aspectRatio := some n },
  integer "global-resolution" fun n f ↦ { f with globalResolution := some n },
  text "writer" fun s f ↦ { f with writer := some s },
  name "report" fun s f ↦ { f with report := s }]

/-- The flags about georeferences. -/
def georeferenceGrammar : Grammar MosaicFlags := [
  word "datum" (DatumOverride.all.map DatumOverride.name) fun s f ↦ { f with datum := some s },
  number "sphere-radius" fun x f ↦ { f with sphereRadius := some x },
  ⟨none, "projection", .value fun given f ↦
    match given with
    | some s => (chosen projections s).map fun kind ↦ { f with projection := some kind }
    | none => some { f with projection := none }⟩,
  number "proj-lat" fun x f ↦ { f with projLat := some x },
  number "proj-lon" fun x f ↦ { f with projLon := some x },
  number "proj-scale" fun x f ↦ { f with projScale := some x },
  number "std-parallel1" fun x f ↦ { f with stdParallel1 := some x },
  number "std-parallel2" fun x f ↦ { f with stdParallel2 := some x },
  integer "utm-zone" fun n f ↦ { f with utmZone := some n },
  number "north" fun x f ↦ { f with north := some x },
  number "south" fun x f ↦ { f with south := some x },
  number "east" fun x f ↦ { f with east := some x },
  number "west" fun x f ↦ { f with west := some x },
  lever "global" fun f ↦ { f with wholeGlobe := true },
  number "nudge-x" fun x f ↦ { f with nudgeX := some x },
  number "nudge-y" fun x f ↦ { f with nudgeY := some x }]

/-- The flags about pixels. -/
def pixelGrammar : Grammar MosaicFlags := [
  number "nodata" fun x f ↦ { f with nodata := some x },
  number "pixel-scale" fun x f ↦ { f with pixelScale := some x },
  number "pixel-offset" fun x f ↦ { f with pixelOffset := some x },
  lever "normalize" fun f ↦ { f with normalize := true },
  lever "multiband" fun f ↦ { f with multiband := true }]

/-- The flags about viewers. -/
def viewerGrammar : Grammar MosaicFlags := [
  integer "max-lod-pixels" fun n f ↦ { f with maxLodPixels := some n },
  integer "draw-order-offset" fun n f ↦ { f with drawOrderOffset := some n },
  lever "terrain" fun f ↦ { f with terrain := true },
  text "module-name" fun s f ↦ { f with moduleName := some s }]

/-- All flags of the mosaic command. -/
def grammar : Grammar MosaicFlags :=
  runGrammar ++ georeferenceGrammar ++ pixelGrammar ++ viewerGrammar

end MosaicFlags

end QuadMosaic
