import QuadMosaic.Described.Crs
import QuadMosaic.Json.Printer
import QuadMosaic.Json.Reader
import QuadMosaic.Raster.Literal
import QuadMosaic.Session.Files

/-!
# Images and files described by data

An image can be written out as an object: its size, the type of its channels, what marks missing
data, its place on the globe, and its samples as a list, as one value for each band, or as a
pattern.
-/

namespace QuadMosaic

/-- The value that marks missing data, if there is one; an integer beyond all doubles is of a kind
that no sample is compared with. -/
def Raster.nodataOf (value : Json) : Except Fault (Option Float) :=
  match value with
  | .int n => if Scalar.isFinite (Float.ofInt n) then .ok (some (Float.ofInt n))
    else .error (.value .badKind)
  | value => value.toReal?

/-- A length: a natural number. -/
def Raster.lengthOf (value : Json) : Except Fault Nat :=
  match value with
  | .int n => if n < 0 then .error (.value .badValue) else .ok n.toNat
  | .bool b => .ok b.toNat
  | _ => .error (.value .badKind)

/-- The channel type under a key, the narrowest by default. -/
def ChannelType.ofMember (fields : Fields) (key : String := "dtype") : Except Fault ChannelType :=
  ofJson (fields.getOr key (.str "uint8"))

namespace Image

/-- The reference system of an image, if it has one. -/
def crsOf? (fields : Fields) : Except Fault (Option Crs) :=
  match fields.getD "crs" with
  | .null => .ok none
  | value => some <$> Crs.open? value

/-- The pattern that a value lists. -/
def patternOf? (value : Json) : Option Raster.Pattern :=
  match value.items.map Json.toIntD with
  | [col, row, band, start, modulus] => some ⟨col, row, band, start, modulus⟩
  | _ => none

/-- The samples of an image, and the type of its channels. -/
def pixelsOf (fields : Fields) : Except Fault (ChannelType × Raster Float) := do
  let channel ← ChannelType.ofMember fields
  let bands ← Raster.lengthOf (fields.getOr "bands" (.int 1))
  let rows ← Raster.lengthOf (fields.getOr "rows" (.int 1))
  let cols ← Raster.lengthOf (fields.getOr "cols" (.int 1))
  let pixels ←
    match fields.getD "data", fields.getD "fill", patternOf? (fields.getD "pattern") with
    | .null, .null, some p => .ok (Raster.ofPattern channel bands rows cols p)
    | .null, .null, none => .ok (Raster.zeros bands rows cols)
    | .null, values, _ => do
      let pixels ← Raster.ofFill channel rows cols values.items
      pure { pixels with bands }
    | values, _, _ => Raster.ofList channel bands rows cols values
  pure (channel, pixels)

/-- Whether a channel type can hold the value that marks missing data. -/
def holds (channel : ChannelType) (nodata : Option Float) : Bool :=
  match channel.limits?, nodata with
  | some (lo, hi), some x => Float.ofInt lo ≤ x && x ≤ Float.ofInt hi
  | none, some x =>
    !Scalar.isFinite x || Scalar.isFinite (if channel = .float32 then Scalar.toSingle x else x)
  | _, none => true

/-- The image that an object describes. -/
def ofMembers (fields : Fields) : Except Fault Image := do
  let (channel, pixels) ← pixelsOf fields
  let transform ← Georeference.transformOfMembers fields
  let crs ← crsOf? fields
  let nodata ← Raster.nodataOf (fields.getD "nodata")
  if holds channel nodata then pure { pixels, channel, nodata, crs, transform }
  else throw (.value .badValue)

/-- The image that a text describes, if it is the text of an object that describes one. -/
def ofText? (text : String) : Option Image :=
  match Json.parse? text with
  | some (.obj fields) => (ofMembers fields).toOption
  | _ => none

end Image

/-- The format that a name begins with, as far as it says how many bands there are. -/
def PixelFormat.ofPrefix (name : String) : PixelFormat :=
  (ofName? name).getD (if name.startsWith "gray" then .gray else .rgb)

/-- What an object says about an image whose samples are not written out. -/
def RasterSource.ofMembers (fields : Fields) : Except Fault (RasterSource Float) := do
  let transform ← Georeference.transformOfMembers fields
  let crs ← Image.crsOf? fields
  let nodata ← Raster.nodataOf (fields.getD "nodata")
  let format := PixelFormat.ofPrefix (fields.text "pixel_format" "gray")
  pure {
    path := Path.ofString (fields.text "path" "mem.tif")
    format
    channel := (ChannelType.ofMember fields "channel_type").toOption.getD .uint8
    cols := fields.natural "cols" 1
    rows := fields.natural "rows" 1
    bandCount := format.usedBands
    nodata
    crs
    transform }

/-- The changes of pixel values that an object describes. -/
def PixelOptions.ofMembers (fields : Fields) : Except Fault (PixelOptions Float) := do
  let nodata ← Raster.nodataOf (fields.getD "nodata")
  let scale ← fields.real "pixel_scale" (.real 1.0)
  let offset ← fields.real "pixel_offset" (.real 0.0)
  pure { nodata, scale, offset, normalize := fields.flag "normalize" }

namespace Files

/-- The files with one more, that an object describes: a text, structured data, or an image. -/
def putDescribed (files : Files) (fields : Fields) : Except Fault Files := do
  let path := Path.ofString (fields.text "name")
  match fields.get? "text", fields.get? "json" with
  | some text, _ => pure (files.put path (.text text.text))
  | none, some value => pure (files.put path (.text value.document))
  | none, none => do
    let image ← Image.ofMembers fields
    pure (files.put path (.image image))

/-- The files that a value describes, in order. -/
def ofJson (value : Json) : Except Fault Files :=
  value.items.foldlM (fun files file ↦ files.putDescribed file.members) {}

end Files

end QuadMosaic
