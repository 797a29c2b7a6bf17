import QuadMosaic.Georeference.Resolve
import QuadMosaic.Pixel.Adjust
import QuadMosaic.Pyramid.Viewer

/-!
# The options of a run

`MosaicOptions.validate` says which options describe a run.
-/

namespace QuadMosaic

/-- The options of a run. -/
structure MosaicOptions where
  inputs : List Path
  /-- The name that all output begins with; null or empty for one made from the first input. -/
  outputName : Json := .null
  profile : Profile := .kml
  georeference : GeoreferenceOptions Float := .unchanged
  pixels : PixelOptions Float := .unchanged
  aspectRatio : Int := 1
  /-- The resolution of the pyramid, if it is not to be estimated. -/
  globalResolution : Option Int := none
  tileSize : Int := 256
  fileType : String := "png"
  /-- The name of the channel type of the output; null for that of the first input. -/
  channelType : Json := .null
  /-- Whether overlapping images are mixed. -/
  multiband : Bool := false
  maxLodPixels : Int := 1024
  drawOrderOffset : Int := 0
  terrain : Bool := false
  moduleName : Json := .null
  writer : String := "plan"

namespace MosaicOptions

/-- Whether a number is a positive power of two. -/
def isPowerOfTwo (n : Int) : Bool := decide (0 < n) && n.toNat == Nat.pow 2 n.toNat.log2

/-- The channel types that an output may have. -/
def outputChannels : List ChannelType := [.uint8, .uint16, .int16, .float32]

/-- The channel type of the output, if it is given. -/
def channel? (o : MosaicOptions) : Option ChannelType :=
  match o.channelType with
  | .str s => outputChannels.find? (·.name = s)
  | _ => none

/-- Whether the channel type is absent or one that an output may have. -/
def channelIsAllowed (o : MosaicOptions) : Bool :=
  (o.channelType matches .null) || o.channel?.isSome

/-- The name that all output begins with: the one given, or the first input without its suffix. -/
def resolvedOutputName (o : MosaicOptions) : Except Fault Json :=
  if o.outputName.isGiven then .ok o.outputName
  else
    match o.inputs.head?.bind Path.withoutSuffix? with
    | some path => .ok (.str path.toString)
    | none => .error (.value .badValue)

/-- The options that viewers may need. -/
def viewerSettings (o : MosaicOptions) : ViewerSettings where
  maxLodPixels := .int o.maxLodPixels
  drawOrderOffset := .int o.drawOrderOffset
  terrain := .bool o.terrain
  moduleName := o.moduleName

/-- A failure when a condition holds. -/
def refuse (condition : Bool) (cause : ConfigFault) : Except Fault Unit :=
  if condition then .error (.config cause) else .ok ()

/-- A failure when the options do not describe a run. -/
def validate (o : MosaicOptions) : Except Fault Unit := do
  refuse o.inputs.isEmpty .noInput
  refuse (o.georeference.manualBounds.isSome && o.inputs.length != 1) .boundsForManyImages
  refuse (!o.profile.isGeoreferenced && o.inputs.length != 1) .plainForManyImages
  refuse ((o.profile == .uniview || o.profile == .celestia) && !o.moduleName.isGiven)
    .moduleNameAbsent
  refuse (!isPowerOfTwo o.aspectRatio) (.aspectRatio o.aspectRatio)
  refuse (!isPowerOfTwo o.tileSize) (.tileSize o.tileSize)
  refuse (o.globalResolution.any (· ≤ 0)) .resolutionNotPositive
  refuse (!o.channelIsAllowed) (.channelType o.channelType.display)
  let _ ← o.georeference.datum.datum o.georeference.sphereRadius

end MosaicOptions

end QuadMosaic
