import QuadMosaic.Grid.Quantity

/-!
# Projections chosen by name

A run may bring every source into one projection, chosen by name and by a few numbers.
-/

namespace QuadMosaic

/-- The projections that can be chosen. -/
inductive ProjectionKind
  | sinusoidal | mercator | transverseMercator | orthographic | stereographic | lambertAzimuthal
  | lambertConformalConic | utm | plateCarree
  deriving DecidableEq, Repr, Inhabited

namespace ProjectionKind

/-- All projections, in the order in which they are listed. -/
def all : List ProjectionKind :=
  [sinusoidal, mercator, transverseMercator, orthographic, stereographic, lambertAzimuthal,
    lambertConformalConic, utm, plateCarree]

/-- The name of a projection. -/
def name : ProjectionKind → String
  | sinusoidal => "sinusoidal"
  | mercator => "mercator"
  | transverseMercator => "transverse-mercator"
  | orthographic => "orthographic"
  | stereographic => "stereographic"
  | lambertAzimuthal => "lambert-azimuthal"
  | lambertConformalConic => "lambert-conformal-conic"
  | utm => "utm"
  | plateCarree => "plate-carree"

/-- The projection that a value names; an underscore stands for a hyphen. -/
def parse (value : Json) : Except Fault ProjectionKind :=
  let key := Text.replaceChar '_' '-' (Text.lower (Text.strip value.display))
  match all.find? (·.name = key) with
  | some kind => .ok kind
  | none => .error (.config (.unknownProjection value.display))

end ProjectionKind

/-- A projection with the numbers it needs; null stands for a number that is not given. -/
structure ProjectionSpec where
  kind : ProjectionKind := .plateCarree
  /-- The latitude of the centre. -/
  lat : Json := .null
  /-- The longitude of the centre. -/
  lon : Json := .null
  scale : Json := .real 1.0
  /-- The first standard parallel. -/
  p1 : Json := .null
  /-- The second standard parallel. -/
  p2 : Json := .null
  /-- The zone, positive in the north and negative in the south. -/
  utmZone : Json := .null
  deriving Repr

namespace ProjectionSpec

/-- A number that the projection needs. -/
def require (spec : ProjectionSpec) (name : String) (value : Json) : Except Fault Json :=
  match value with
  | .null => .error (.projection (.parameterAbsent spec.kind.name name))
  | _ => .ok value

/-- The parameters of the projection, without a datum. -/
def params (spec : ProjectionSpec) : Except Fault Fields :=
  match spec.kind with
  | .plateCarree => .ok [("proj", .str "longlat")]
  | .sinusoidal => do
    let lon ← spec.require "lon" spec.lon
    pure [("proj", .str "sinu"), ("lon_0", lon), ("units", .str "m")]
  | .mercator => do
    let lat ← spec.require "lat" spec.lat
    let lon ← spec.require "lon" spec.lon
    pure [("proj", .str "merc"), ("lat_ts", lat), ("lon_0", lon), ("k_0", spec.scale),
      ("units", .str "m")]
  | .transverseMercator => do
    let lat ← spec.require "lat" spec.lat
    let lon ← spec.require "lon" spec.lon
    pure [("proj", .str "tmerc"), ("lat_0", lat), ("lon_0", lon), ("k_0", spec.scale),
      ("units", .str "m")]
  | .orthographic => do
    let lat ← spec.require "lat" spec.lat
    let lon ← spec.require "lon" spec.lon
    pure [("proj", .str "ortho"), ("lat_0", lat), ("lon_0", lon), ("units", .str "m")]
  | .stereographic => do
    let lat ← spec.require "lat" spec.lat
    let lon ← spec.require "lon" spec.lon
    pure [("proj", .str "stere"), ("lat_0", lat), ("lon_0", lon), ("k_0", spec.scale),
      ("units", .str "m")]
  | .lambertAzimuthal => do
    let lat ← spec.require "lat" spec.lat
    let lon ← spec.require "lon" spec.lon
    pure [("proj", .str "laea"), ("lat_0", lat), ("lon_0", lon), ("units", .str "m")]
  | .lambertConformalConic => do
    let p1 ← spec.require "p1" spec.p1
    let p2 ← spec.require "p2" spec.p2
    let lat ← spec.require "lat" spec.lat
    let lon ← spec.require "lon" spec.lon
    pure [("proj", .str "lcc"), ("lat_1", p1), ("lat_2", p2), ("lat_0", lat), ("lon_0", lon),
      ("units", .str "m")]
  | .utm =>
    match spec.utmZone with
    | .null => .error (.projection .utmZone)
    | zone => do
      let zone ← Quantity.ofJson zone
      let size := Scalar.abs zone
      if Coordinate.same zone 0 || Quantity.below (.whole 60) size then
        throw (.projection .utmZone)
      pure ([("proj", .str "utm"), ("zone", (size + 0).toJson), ("units", .str "m")] ++
        (if zone < 0 then [("south", .bool true)] else []))

/-- A projection and its numbers as data. -/
def toFields (spec : ProjectionSpec) : Fields :=
  [("type", .str spec.kind.name), ("lat", spec.lat), ("lon", spec.lon), ("scale", spec.scale),
    ("p1", spec.p1), ("p2", spec.p2), ("utm_zone", spec.utmZone)]

end ProjectionSpec

end QuadMosaic
