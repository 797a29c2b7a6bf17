import QuadMosaic.Crs.Basic
import QuadMosaic.Grid.Affine

/-!
# Map projections of a ball

Each projection maps longitudes and latitudes to the plane and back.  Angles are in radians here;
a point that has no image is sent to infinity.
-/

namespace QuadMosaic

/-- A projection of a ball, its angles in radians. -/
inductive Projection
  | mercator (radius lon scale : Float)
  | sinusoidal (radius lon : Float)
  | orthographic (radius lat lon : Float)
  | stereographic (radius lat lon scale : Float)
  | equalArea (radius lat lon : Float)
  | conic (radius lat lon first second : Float)
  | transverse (radius lat lon scale : Float)
  deriving Repr

namespace Projection

/-- Half a turn. -/
def pi : Float := 3.141592653589793

/-- A quarter turn. -/
def quarter : Float := pi / 2.0

/-- Degrees as radians. -/
def radians (x : Float) : Float := x * (pi / 180.0)

/-- Radians as degrees. -/
def degrees (x : Float) : Float := x * (180.0 / pi)

/-- The point at infinity. -/
def nowhere : Point Float := ⟨1.0 / 0.0, 1.0 / 0.0⟩

/-- A longitude brought into the half-open turn around zero; the ends are left in place. -/
def wrap (x : Float) : Float :=
  if x.abs ≤ pi + 1e-12 then x
  else
    let y := x + pi
    y - 2.0 * pi * (y / (2.0 * pi)).floor - pi

/-- The radius of the ball that a system is projected from. -/
def radiusOf (crs : Crs) : Float :=
  match (crs.normal.get? "R").bind Crs.number?, (crs.normal.get? "a").bind Crs.number? with
  | some r, _ => r
  | none, some a => a
  | none, none => crs.datum.semiMajor.toFloat

/-- The projection of a system, if it is one of a ball. -/
def ofCrs? (crs : Crs) : Option Projection := do
  let r := radiusOf crs
  let number (key : String) : Option Float := Crs.numberOr crs.normal key 0.0
  let angle (key : String) : Option Float := (number key).map radians
  match crs.normal.get? "proj" with
  | some (.str "merc") =>
    let scale ← Crs.scaleOf crs.normal
    let latitude ← angle "lat_ts"
    let scale := if crs.normal.has "lat_ts" then latitude.cos else scale
    pure (.mercator r (← angle "lon_0") scale)
  | some (.str "sinu") => pure (.sinusoidal r (← angle "lon_0"))
  | some (.str "ortho") => pure (.orthographic r (← angle "lat_0") (← angle "lon_0"))
  | some (.str "stere") =>
    pure (.stereographic r (← angle "lat_0") (← angle "lon_0") (← Crs.scaleOf crs.normal))
  | some (.str "laea") => pure (.equalArea r (← angle "lat_0") (← angle "lon_0"))
  | some (.str "lcc") =>
    pure (.conic r (← angle "lat_0") (← angle "lon_0") (← angle "lat_1") (← angle "lat_2"))
  | some (.str "tmerc") =>
    pure (.transverse r (← angle "lat_0") (← angle "lon_0") (← Crs.scaleOf crs.normal))
  | _ => none

/-- The longitude of the central meridian. -/
def centre : Projection → Float
  | mercator _ lon _ | sinusoidal _ lon | orthographic _ _ lon | stereographic _ _ lon _
  | equalArea _ _ lon | conic _ _ lon _ _ | transverse _ _ lon _ => lon

/-- The quantity `tan (π / 4 + q / 2)` of conformal projections. -/
def conformal (q : Float) : Float := (pi / 4.0 + q / 2.0).tan

/-- The cone constant of two standard parallels. -/
def coneConstant (first second : Float) : Float :=
  if (first - second).abs < 1e-10 then first.sin
  else (first.cos / second.cos).log / (conformal second / conformal first).log

/-- The image of the point at longitude `l` from the central meridian and latitude `p`. -/
def forwardFromCentre (l p : Float) : Projection → Point Float
  | mercator r _ k => ⟨r * k * l, r * k * p.tan.asinh⟩
  | sinusoidal r _ => ⟨r * l * p.cos, r * p⟩
  | orthographic r p₀ _ =>
    let facing := p₀.sin * p.sin + p₀.cos * p.cos * l.cos
    if facing < -1e-10 then nowhere
    else ⟨r * (p.cos * l.sin), r * (p₀.cos * p.sin - p₀.sin * p.cos * l.cos)⟩
  | stereographic r p₀ _ k =>
    if (p₀.abs - quarter).abs < 1e-10 then
      let s := if p₀ < 0.0 then -1.0 else 1.0
      if (s * p + quarter).abs < 1e-8 then nowhere
      else
        let ρ := 2.0 * k * r * (pi / 4.0 - s * p / 2.0).tan
        ⟨ρ * l.sin, -s * ρ * l.cos⟩
    else
      let facing := 1.0 + p₀.sin * p.sin + p₀.cos * p.cos * l.cos
      if facing ≤ 1e-10 then nowhere
      else
        let factor := 2.0 * k / facing
        ⟨r * factor * (p.cos * l.sin), r * factor * (p₀.cos * p.sin - p₀.sin * p.cos * l.cos)⟩
  | equalArea r p₀ _ =>
    let facing := 1.0 + p₀.sin * p.sin + p₀.cos * p.cos * l.cos
    if facing < 1e-10 then nowhere
    else
      let factor := (2.0 / facing).sqrt
      ⟨r * factor * (p.cos * l.sin), r * factor * (p₀.cos * p.sin - p₀.sin * p.cos * l.cos)⟩
  | conic r p₀ _ first second =>
    let n := coneConstant first second
    let c := first.cos * (conformal first).pow n / n
    let radiusAt (q : Float) : Float := r * c / (conformal q).pow n
    let atPole := (p.abs - quarter).abs < 1e-10
    if atPole && p * n ≤ 0.0 then nowhere
    else
      let ρ := if atPole then 0.0 else radiusAt p
      let ρ₀ := if (p₀.abs - quarter).abs < 1e-10 then 0.0 else radiusAt p₀
      ⟨ρ * (n * l).sin, ρ₀ - ρ * (n * l).cos⟩
  | transverse r p₀ _ k =>
    let b := p.cos * l.sin
    if (b.abs - 1.0).abs ≤ 1e-10 then nowhere
    else ⟨r * k * b.atanh, r * k * (Float.atan2 p.sin (p.cos * l.cos) - p₀)⟩

/-- The longitude from the central meridian and the latitude of a point of the plane of an azimuthal
projection, at the angle `c` from the centre and the distance `ρ` of the plane. -/
def azimuthalInverse (p₀ x y ρ c : Float) : Point Float :=
  if ρ == 0.0 then ⟨0.0, p₀⟩
  else
    let latitude := (c.cos * p₀.sin + y * c.sin * p₀.cos / ρ)
    ⟨Float.atan2 (x * c.sin) (ρ * p₀.cos * c.cos - y * p₀.sin * c.sin),
      (if latitude < -1.0 then -1.0 else if 1.0 < latitude then 1.0 else latitude).asin⟩

/-- The length of the hypotenuse of a right triangle. -/
def hypotenuse (x y : Float) : Float :=
  let x := x.abs
  let y := y.abs
  if x == 1.0 / 0.0 || y == 1.0 / 0.0 then 1.0 / 0.0
  else if x.isNaN || y.isNaN then 0.0 / 0.0
  else
    let m := if x < y then y else x
    if m == 0.0 then 0.0 else m * ((x / m) * (x / m) + (y / m) * (y / m)).sqrt

/-- The longitude from the central meridian and the latitude of a point of the plane. -/
def inverseFromCentre (x y : Float) : Projection → Point Float
  | mercator r _ k => ⟨x / (r * k), (y / (r * k)).sinh.atan⟩
  | sinusoidal r _ =>
    let p := y / r
    if quarter + 1e-10 < p.abs then nowhere
    else if (p.abs - quarter).abs ≤ 1e-10 then ⟨0.0, p⟩
    else ⟨x / (r * p.cos), p⟩
  | orthographic r p₀ _ =>
    let ρ := hypotenuse (x / r) (y / r)
    if 1.0 + 1e-10 < ρ then nowhere
    else azimuthalInverse p₀ (x / r) (y / r) ρ (if 1.0 < ρ then 1.0 else ρ).asin
  | stereographic r p₀ _ k =>
    let ρ := hypotenuse (x / r) (y / r)
    azimuthalInverse p₀ (x / r) (y / r) ρ (2.0 * (ρ / (2.0 * k)).atan)
  | equalArea r p₀ _ =>
    let ρ := hypotenuse (x / r) (y / r)
    if 2.0 < ρ then nowhere
    else azimuthalInverse p₀ (x / r) (y / r) ρ (2.0 * (ρ / 2.0).asin)
  | conic r p₀ _ first second =>
    let n := coneConstant first second
    let c := first.cos * (conformal first).pow n / n
    let ρ₀ := if (p₀.abs - quarter).abs < 1e-10 then 0.0 else r * c / (conformal p₀).pow n
    let dy := ρ₀ - y
    let ρ := hypotenuse x dy
    if ρ == 0.0 then ⟨0.0, if 0.0 < n then quarter else -quarter⟩
    else
      let s := if n < 0.0 then -1.0 else 1.0
      ⟨Float.atan2 (s * x) (s * dy) / n,
        2.0 * ((r * c / (s * ρ)).pow (1.0 / n)).atan - quarter⟩
  | transverse r p₀ _ k =>
    let d := y / (r * k) + p₀
    let u := x / (r * k)
    ⟨Float.atan2 u.sinh d.cos, (d.sin / u.cosh).asin⟩

/-- Whether a value is beyond every number. -/
def isInfinite (x : Float) : Bool := x.abs == 1.0 / 0.0

/-- Latitudes beyond the poles by no more than this many radians are taken for the poles. -/
def poleSlack : Float := 1e-12

/-- Longitudes of more radians than this are taken for mistakes. -/
def longitudeLimit : Float := 10.0

/-- The plane point of a longitude and a latitude in degrees. -/
def forward (projection : Projection) (p : Point Float) : Point Float :=
  let l := radians p.x
  let q := radians p.y
  if longitudeLimit < l.abs || poleSlack < q.abs - quarter then nowhere
  else
    projection.forwardFromCentre (wrap (wrap l - projection.centre))
      (Scalar.clamp (-quarter) quarter q)

/-- The longitude and the latitude in degrees of a plane point. -/
def inverse (projection : Projection) (p : Point Float) : Point Float :=
  if isInfinite p.x || isInfinite p.y then nowhere
  else
    let q := projection.inverseFromCentre p.x p.y
    if isInfinite q.x || isInfinite q.y then nowhere
    else ⟨degrees (wrap (q.x + projection.centre)), degrees q.y⟩

end Projection

end QuadMosaic
