import QuadMosaic.Crs.Projection

/-!
# From one reference system to another

Coordinates move between systems of one celestial body.  Equal systems and any two geographic
systems of one body share their coordinates.
-/

namespace QuadMosaic

/-- For two reference systems, the map from the coordinates of the first to those of the second,
when there is one. -/
abbrev Projector (α : Type) := Crs → Crs → Option (Point α → Point α)

/-- The map from one system to another; a failure when the systems are of unrelated bodies. -/
def Projector.between {α : Type} (project : Projector α) (source target : Crs) :
    Except Fault (Point α → Point α) :=
  match project source target with
  | some f => .ok f
  | none => .error (.value .unrelatedBodies)

namespace Crs

/-- The celestial bodies that systems are told apart by, with their equatorial radii. -/
def bodies : List (String × Float) :=
  [("Earth", 6375000.0), ("Moon", 1737400.0), ("Mercury", 2440530.0), ("Venus", 6051800.0),
    ("Mars", 3396190.0), ("Jupiter", 71492000.0), ("Saturn", 60268000.0),
    ("Uranus", 25559000.0), ("Neptune", 24764000.0), ("Pluto", 1188300.0), ("Io", 1829400.0),
    ("Europa", 1562600.0), ("Ganymede", 2631200.0), ("Callisto", 2410300.0), ("Titan", 2575150.0),
    ("Triton", 1352600.0)]

/-- Whether a radius equals another one as far as figures of one body differ. -/
def isNear (radius other : Float) : Bool := (radius - other).abs ≤ 0.007 * other

/-- The body of an equatorial radius, if it is one of those listed. -/
def bodyOf? (radius : Float) : Option String :=
  (bodies.find? fun body ↦ isNear radius body.2).map (·.1)

/-- Whether two systems are of one body: of the same one listed, or of one that is not listed and of
nearly equal radii. -/
def shareBody (source target : Crs) : Bool :=
  let a := source.datum.semiMajor.toFloat
  let b := target.datum.semiMajor.toFloat
  match bodyOf? a, bodyOf? b with
  | some p, some q => p == q
  | _, _ => isNear a b

/-- Longitudes and latitudes of a point of a system, in degrees. -/
def toLonLat (crs : Crs) (p : Point Float) : Point Float :=
  if crs.isGeographic then p
  else
    match Projection.ofCrs? crs with
    | some projection => projection.inverse p
    | none => Projection.nowhere

/-- The point of a system with the given longitude and latitude. -/
def ofLonLat (crs : Crs) (p : Point Float) : Point Float :=
  if crs.isGeographic then p
  else
    match Projection.ofCrs? crs with
    | some projection => projection.forward p
    | none => Projection.nowhere

/-- The map from the coordinates of one system to those of another. -/
def transform : Projector Float := fun source target ↦
  if !shareBody source target then none
  else if (Json.obj source.normal).same (.obj target.normal) then some id
  else some fun p ↦ target.ofLonLat (source.toLonLat p)

end Crs

end QuadMosaic
