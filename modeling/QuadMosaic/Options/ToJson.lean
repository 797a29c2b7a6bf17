import QuadMosaic.Options.Basic

/-!
# Options as data

The data that options are read from again: every option under its key, those that are not given left
out.
-/

namespace QuadMosaic

/-- A member, unless its value is null. -/
def Fields.unlessNull (key : String) (value : Json) : Fields :=
  match value with
  | .null => []
  | _ => [(key, value)]

/-- The members whose value is not null. -/
def Fields.dropNulls (fields : Fields) : Fields :=
  fields.flatMap fun (key, value) ↦ Fields.unlessNull key value

/-- Georeference options as data. -/
def GeoreferenceOptions.toFields (o : GeoreferenceOptions Float) : Fields :=
  [("datum", .str o.datum.name), ("nudge_x", .real o.nudgeX), ("nudge_y", .real o.nudgeY)] ++
    Fields.unlessNull "sphere_radius" (Json.ofOption Quantity.toJson o.sphereRadius) ++
    Fields.unlessNull "projection"
      (Json.ofOption (fun spec ↦ .obj (Fields.dropNulls spec.toFields)) o.projection) ++
    Fields.unlessNull "bounds" (Json.ofOption ManualBounds.toJson o.manualBounds)

/-- Pixel options as data. -/
def PixelOptions.toFields (o : PixelOptions Float) : Fields :=
  Fields.unlessNull "nodata" (Json.ofOption .real o.nodata) ++
    [("pixel_scale", .real o.scale), ("pixel_offset", .real o.offset),
      ("normalize", .bool o.normalize)]

namespace MosaicOptions

/-- Options as data, under a given output name. -/
def fieldsNamed (o : MosaicOptions) (outputName : Json) : Fields :=
  [("inputs", Json.ofList (fun p ↦ .str p.toString) o.inputs),
    ("output_name", outputName),
    ("profile", .str o.profile.name),
    ("georeference", .obj o.georeference.toFields),
    ("pixels", .obj o.pixels.toFields),
    ("aspect_ratio", .int o.aspectRatio),
    ("tile_size", .int o.tileSize),
    ("file_type", .str o.fileType),
    ("multiband", .bool o.multiband),
    ("max_lod_pixels", .int o.maxLodPixels),
    ("draw_order_offset", .int o.drawOrderOffset),
    ("terrain", .bool o.terrain),
    ("writer", .str o.writer)] ++
    Fields.unlessNull "global_resolution" (Json.ofOption .int o.globalResolution) ++
    Fields.unlessNull "channel_type" o.channelType ++
    Fields.unlessNull "module_name" o.moduleName

/-- Options as data. -/
def toFields (o : MosaicOptions) : Except Fault Fields := do
  let name ← if o.inputs.isEmpty then .ok o.outputName else o.resolvedOutputName
  pure (o.fieldsNamed name)

end MosaicOptions

end QuadMosaic
