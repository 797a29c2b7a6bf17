import QuadMosaic.Crs.Datum
import QuadMosaic.Crs.Spec

/-!
# Reference systems taken apart and put together

A coordinate reference system is a projection on a datum, and both can be read back as parameters.
Replacing one of the two keeps the other: the system is rebuilt from the parameters of one side and
the new value of the other.  How parameters are read back is left to the kind of reference system.
-/

namespace QuadMosaic

/-- A kind of reference system that can be built from parameters and read back as parameters. -/
class ReferenceSystem (C : Type) where
  /-- The system with the given parameters, if they denote one. -/
  ofParams? : Fields → Option C
  /-- The parameters of a system. -/
  params : C → Fields
  /-- The geodetic system that a system is based on, if there is one. -/
  geodetic? : C → Option C
  /-- The equatorial and the polar radius of a system in metres, if it has an ellipsoid. -/
  axes? : C → Option (Quantity × Quantity)
  /-- The name of the datum of a system, if it has one. -/
  datumName? : C → Option String
  /-- Whether a system has longitudes and latitudes. -/
  isGeographic : C → Bool

namespace ReferenceSystem

variable {C : Type} [ReferenceSystem C]

/-- The datum of a system: the parameters of its geodetic system that belong to a datum, sorted by
key.  An ellipsoid is taken for a system without such parameters, and for one without axes. -/
def datum (crs : C) : Datum :=
  let named := Datum.paramsOf (params ((geodetic? crs).getD crs))
  let axes := (axes? crs).getD (Datum.wgs84.semiMajor, Datum.wgs84.semiMinor)
  { name := (datumName? crs).getD "unknown"
    params := if named.isEmpty then [("ellps", .str "WGS84")] else named
    semiMajor := axes.1
    semiMinor := axes.2 }

/-- The parameters of a projection on a datum: those of the projection that belong to no datum, then
those of the datum, then the flag that no defaults are added. -/
def combined (projection : Fields) (datum : Datum) : Fields :=
  (Fields.overlay (Datum.projectionParamsOf projection) datum.params).put "no_defs" (.bool true)

/-- The system of a projection on a datum. -/
def build (projection : Fields) (datum : Datum) : Except Fault C :=
  match ofParams? (combined projection datum) with
  | some crs => .ok crs
  | none => .error (.projection (.invalidParameters (combined projection datum)))

/-- The system with its datum replaced. -/
def replaceDatum (crs : C) (datum : Datum) : Except Fault C := build (params crs) datum

/-- The system with its projection replaced. -/
def replaceProjection (crs : C) (spec : ProjectionSpec) : Except Fault C := do
  let projection ← spec.params
  build projection (datum crs)

end ReferenceSystem

end QuadMosaic
