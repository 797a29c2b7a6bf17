import QuadMosaic.Described.Grid
import QuadMosaic.Options.FromJson
import QuadMosaic.Pyramid.OutputGrid

/-!
# Reference systems described by data

Datums, projections and georeferences.  The numbers of a projection are kept as they are written.
-/

namespace QuadMosaic

/-- The projection that an object describes. -/
def ProjectionSpec.ofMembers (fields : Fields) : Except Fault ProjectionSpec := do
  let kind ← ProjectionKind.parse (fields.getD "type")
  pure {
    kind
    lat := fields.getD "lat"
    lon := fields.getD "lon"
    scale := fields.getOr "scale" (.real 1.0)
    p1 := fields.getD "p1"
    p2 := fields.getD "p2"
    utmZone := fields.getD "utm_zone" }

/-- The radius that an override of a datum goes with; only the one by a ball looks at it. -/
def DatumOverride.radiusOf (kind : DatumOverride) (radius : Json) :
    Except Fault (Option Quantity) :=
  match kind, radius with
  | .sphere, .null => .ok Option.none
  | .sphere, radius => some <$> Quantity.ofJson radius
  | _, _ => .ok Option.none

/-- The datum that a value describes: a ball, that of a reference system, or one known by name. -/
def Datum.ofJson (value : Json) : Except Fault Datum :=
  match value with
  | .obj fields =>
    match Fields.get? fields "sphere" with
    | some radius => do
      let radius ← Quantity.read radius
      pure (match Fields.get? fields "name" with
        | some name => Datum.sphere radius name.text
        | none => Datum.sphere radius)
    | none => (·.datum) <$> Crs.open? (Fields.getD fields "crs")
  | _ => do
    let kind ← DatumOverride.parse value
    let datum ← kind.datum none
    pure (datum.getD Datum.wgs84)

namespace Georeference

/-- The grid of the profile that an object names. -/
def gridOfMembers (fields : Fields) : Except Fault (Georeference Float) := do
  let profile ← Profile.parse (fields.getD "profile")
  let datum ← Datum.ofJson (fields.getOr "datum" (.str "wgs84"))
  let resolution ← Resolution.ofMember fields
  OutputGrid.ofProfile profile datum resolution

/-- The affine map that an object describes: the one written out, the one that spreads an image
between edges, or none. -/
def transformOfMembers (fields : Fields) : Except Fault (Affine Float) :=
  match fields.getD "transform", fields.getD "bounds" with
  | .null, .null => .ok Affine.identity
  | .null, edges => do
    let bounds ← ManualBounds.ofList edges
    bounds.transform (fields.int "cols" 1) (fields.int "rows" 1)
  | coefficients, _ => Affine.ofJson coefficients

/-- The georeference that a value describes. -/
def ofJson (value : Json) : Except Fault (Georeference Float) :=
  let fields := value.members
  match fields.get? "profile", fields.get? "geographic" with
  | some _, _ => gridOfMembers fields
  | none, some datum => do
    let datum ← Datum.ofJson datum
    let transform ← transformOfMembers fields
    geographic datum transform
  | none, none => do
    let crs ← Crs.open? (fields.getD "crs")
    let transform ← transformOfMembers fields
    pure ⟨crs, transform⟩

end Georeference

/-- The georeference options that an object describes. -/
def GeoreferenceOptions.ofMembers (fields : Fields) : Except Fault (GeoreferenceOptions Float) := do
  let datum ← DatumOverride.parse (fields.getD "datum")
  let sphereRadius ← datum.radiusOf (fields.getD "sphere_radius")
  let projection ←
    match fields.getD "projection" with
    | .null => .ok none
    | spec => some <$> ProjectionSpec.ofMembers spec.members
  let manualBounds ←
    match fields.getD "manual_bounds" with
    | .obj edges => some <$> ManualBounds.ofMembers edges
    | _ => .ok none
  let nudgeX ← fields.real "nudge_x" (.real 0.0)
  let nudgeY ← fields.real "nudge_y" (.real 0.0)
  pure { datum, sphereRadius, projection, manualBounds, nudgeX, nudgeY }

end QuadMosaic
