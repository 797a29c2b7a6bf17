import QuadMosaic.Crs.Rebuild
import QuadMosaic.Json.Display
import QuadMosaic.Decimal.Reading
import QuadMosaic.Decimal.Shortest
import QuadMosaic.Scalar

/-!
# Coordinate reference systems

A system is opened by its code in a registry or built from parameters.  Its parameters are read back
in a normal form: the projection with all its numbers, the datum in its shortest spelling, the unit,
and the flag that no defaults are added.
-/

namespace QuadMosaic

/-- A coordinate reference system. -/
structure Crs where
  /-- The text that names the system. -/
  text : String
  /-- The parameters in normal form. -/
  normal : Fields
  /-- The datum, its parameters sorted by key. -/
  datum : Datum
  /-- Whether coordinates are longitudes and latitudes. -/
  isGeographic : Bool
  deriving Repr

namespace Crs

/-! ## Numbers among parameters -/

/-- The number nearest to a double among those with a given number of decimal digits. -/
def toDigits (digits : Int) (x : Float) : Float :=
  match Binary64.ofFloat x with
  | .finite negative (m + 1) e =>
    let q := (Binary64.finite false (m + 1) e).toRat
    let unit := Decimal.leadingPower q.num.natAbs q.den - (digits - 1)
    let scaled := mkRat (q.num * Nat.pow 10 (-unit).toNat) (q.den * Nat.pow 10 unit.toNat)
    Decimal.toFloat negative (Scalar.nearestRat scaled).toNat unit
  | _ => x

/-- The tenth next to a number, if it is nearly one, else the number. -/
def nearTenth (x : Float) : Float :=
  match Scalar.nearest (x * 10.0) with
  | .whole n =>
    let tenfold := Float.ofInt n
    if (x * 10.0 - tenfold).abs < 1e-8 then tenfold / 10.0 else x
  | _ => x

/-- A number as normal forms hold it: one that is nearly a tenth is that tenth, any other has
fifteen digits; a number that is whole then and short enough is written without a fraction. -/
def normalNumber (x : Float) : Json :=
  let x := toDigits 15 (nearTenth x)
  match Scalar.floor x with
  | .whole n => if Float.ofInt n == x && n.natAbs < 1000000000000000 then .int n else .real x
  | _ => .real x

/-- The number that a parameter holds; text is read as a number. -/
def number? : Json → Option Float
  | .int n => some (Float.ofInt n)
  | .real x => some x
  | .str s => Decimal.readFloat? s
  | _ => none

/-- The number under a key, or a default when the key is absent; nothing when it holds none. -/
def numberOr (params : Fields) (key : String) (default : Float) : Option Float :=
  match params.get? key with
  | none => some default
  | some value => number? value

/-! ## Datums -/

/-- The datum of the global positioning system under the name that a registry gives it. -/
def worldGeodetic (name : String) : Datum := { Datum.wgs84 with name := name }

/-- The polar radius of the international ellipsoid of 1980. -/
def grs80SemiMinor : Quantity := .real 6356752.314140356

/-- A datum on the international ellipsoid of 1980. -/
def onGrs80 (name : String) (params : Fields) : Datum :=
  ⟨name, params, .real 6378137.0, grs80SemiMinor⟩

/-- A datum given by its two axes, if they can be those of a planet: a ball when they are equal,
otherwise an ellipsoid with the inverse of its flattening. -/
def ofAxes? (a b : Float) : Option Datum :=
  if 0.0 < b && b ≤ a && Scalar.isFinite a then
    some {
      name := "unknown"
      params :=
        if a == b then [("R", normalNumber a)]
        else [("a", normalNumber a), ("rf", normalNumber (a / (a - b)))]
      semiMajor := .real a
      semiMinor := .real b }
  else none

/-- The datum that the parameters of a system denote. -/
def datumOf? (params : Fields) : Option Datum :=
  match params.get? "datum" with
  | some (.str "WGS84") => some (worldGeodetic "World Geodetic System 1984")
  | some (.str "NAD83") =>
    some (onGrs80 "North American Datum 1983" [("datum", .str "NAD83")])
  | some _ => none
  | none =>
    match params.get? "ellps" with
    | some (.str "GRS80") =>
      some (onGrs80 "Unknown based on GRS 1980 ellipsoid" [("ellps", .str "GRS80")])
    | some (.str "WGS84") =>
      some { Datum.wgs84 with
        name := "Unknown based on WGS 84 ellipsoid", params := [("ellps", .str "WGS84")] }
    | some _ => none
    | none =>
      match params.get? "R", params.get? "a" with
      | some r, _ => (number? r).bind fun r ↦ ofAxes? r r
      | none, some a => do
        let a ← number? a
        match params.get? "b", params.get? "rf", params.get? "f" with
        | some b, _, _ => (number? b).bind (ofAxes? a)
        | none, some rf, _ => (number? rf).bind fun rf ↦ ofAxes? a (a * (1.0 - 1.0 / rf))
        | none, none, some f => (number? f).bind fun f ↦ ofAxes? a (a * (1.0 - f))
        | none, none, none => ofAxes? a a
      | none, none => some (worldGeodetic "World Geodetic System 1984")

/-! ## Normal forms -/

/-- The origin of a projected plane. -/
def planeOrigin : Fields := [("x_0", .int 0), ("y_0", .int 0)]

/-- The end of every normal form of a projected system. -/
def planeEnd : Fields := [("units", .str "m"), ("no_defs", .null)]

/-- Named numbers in normal form. -/
def normalNumbers (named : List (String × Float)) : Fields :=
  named.map fun (key, x) ↦ (key, normalNumber x)

/-- The normal form of a projection with the given numbers. -/
def normalPlane (proj : String) (numbers : List (String × Float)) (datum : Datum) : Fields :=
  [("proj", .str proj)] ++ normalNumbers numbers ++ planeOrigin ++ datum.params ++ planeEnd

/-- The normal form of a geographic system. -/
def geographicNormal (datum : Datum) : Fields :=
  [("proj", .str "longlat")] ++ datum.params ++ [("no_defs", .null)]

/-- The scale among the parameters of a projection. -/
def scaleOf (params : Fields) : Option Float :=
  match params.get? "k_0" with
  | some value => number? value
  | none => numberOr params "k" 1.0

/-- The datum parameters of a form as built replaced by their normal spelling. -/
def respelled (params : Fields) (datum : Datum) : Fields :=
  let kept := params.filter fun f ↦ f.2 matches .bool false |> not
  let flagged := kept.map fun f ↦ if f.2 matches .bool true then (f.1, Json.null) else f
  let before := flagged.takeWhile fun f ↦ !Datum.isKey f.1
  let after := (flagged.dropWhile fun f ↦ !Datum.isKey f.1).filter fun f ↦ !Datum.isKey f.1
  before ++ datum.params ++ after

/-- Whether the centre of a projection lies on the globe and its scale is positive. -/
def isPlaced (params : Fields) : Bool :=
  match numberOr params "lat_0" 0.0, scaleOf params with
  | some latitude, some scale => latitude.abs ≤ 90.0 && !(scale ≤ 0.0)
  | _, _ => false

/-- Two parallels that differ in nothing but their sign, to this many degrees, have no cone. -/
def coneSlack : Float := 5.729577951308232e-9

/-- The number of a zone, which is written with digits alone. -/
def zoneOf? (params : Fields) : Option Nat :=
  let digits := (params.getD "zone").display.toList
  if digits.all Char.isDigit then
    let zone := Decimal.ofDigits (digits.map fun c ↦ c.toNat - '0'.toNat)
    if 1 ≤ zone ∧ zone ≤ 60 then some zone else none
  else none

/-- The normal form of parameters of a plane on a datum, if they denote a projection. -/
def normalPlaneOf? (params : Fields) (datum : Datum) : Option Fields := do
  let number (key : String) : Option Float := numberOr params key 0.0
  match params.get? "proj" with
  | some (.str "sinu") => pure (normalPlane "sinu" [("lon_0", ← number "lon_0")] datum)
  | some (.str "merc") =>
    let latitude ← number "lat_ts"
    let longitude ← number "lon_0"
    let scale ← scaleOf params
    if 90.0 ≤ latitude.abs then none
    else if params.has "lat_ts" && params.has "k_0" then pure (respelled params datum)
    else if params.has "lat_ts" then
      pure (normalPlane "merc" [("lat_ts", latitude), ("lon_0", longitude)] datum)
    else pure (normalPlane "merc" [("lon_0", longitude), ("k", scale)] datum)
  | some (.str "lcc") =>
    let first ← number "lat_1"
    let second ← numberOr params "lat_2" first
    if (first + second).abs < coneSlack || 90.0 ≤ first.abs || 90.0 ≤ second.abs then none
    else
      pure (normalPlane "lcc" [("lat_0", ← number "lat_0"), ("lon_0", ← number "lon_0"),
        ("lat_1", first), ("lat_2", second)] datum)
  | some (.str "utm") =>
    let zone ← zoneOf? params
    if Coordinate.same datum.semiMajor datum.semiMinor then none
    else
      pure ([("proj", .str "utm"), ("zone", .int zone)] ++
        (if (params.getD "south").same (.bool true) || params.get? "south" matches some .null then
          [("south", .null)] else []) ++ datum.params ++ planeEnd)
  | some (.str proj) =>
    if proj = "tmerc" ∨ proj = "stere" then
      pure (normalPlane proj [("lat_0", ← number "lat_0"), ("lon_0", ← number "lon_0"),
        ("k", ← scaleOf params)] datum)
    else if proj = "ortho" ∨ proj = "laea" then
      pure (normalPlane proj [("lat_0", ← number "lat_0"), ("lon_0", ← number "lon_0")] datum)
    else none
  | _ => none

/-- The normal form of parameters on a datum, if they denote a system. -/
def normalOf? (params : Fields) (datum : Datum) : Option Fields :=
  match params.get? "proj" with
  | some (.str "longlat") | some (.str "latlong") => some (geographicNormal datum)
  | _ => if isPlaced params then normalPlaneOf? params datum else none

/-! ## Text -/

/-- One parameter inside the text of a system: a flag stands alone, and a flag that is off does not
stand at all. -/
def paramText : String × Json → List String
  | (key, .null) => ["+" ++ key]
  | (key, .arr items) => ["+" ++ key ++ "=" ++ Text.joinWith "," (items.map Json.display)]
  | (key, value) =>
    let text := value.display
    if text = "True" then ["+" ++ key] else if text = "False" then []
    else ["+" ++ key ++ "=" ++ text]

/-- The text of a system built from parameters: the projection first. -/
def textOf (params : Fields) : String :=
  let first := params.filter (·.1 = "proj")
  let rest := params.filter (·.1 ≠ "proj")
  Text.joinWith " " ((first ++ rest).flatMap paramText ++ ["+type=crs"])

/-! ## Opening systems -/

/-- The datum with its parameters sorted by key. -/
def sorted (datum : Datum) : Datum :=
  { datum with params := datum.params.mergeSort fun f g ↦ f.1 ≤ g.1 }

/-- The system with the given parameters, if they denote one. -/
def ofParams? (params : Fields) : Option Crs := do
  let datum ← datumOf? params
  let normal ← normalOf? params datum
  pure {
    text := textOf params
    normal
    datum := sorted datum
    isGeographic := (normal.getD "proj").same (.str "longlat") }

/-- The name of the datum of satellite positioning as a family of realisations. -/
def worldEnsemble : Datum := worldGeodetic "World Geodetic System 1984 ensemble"

/-- The normal form of a zone of the universal transverse projection. -/
def zoneNormal (zone : Nat) (south : Bool) : Fields :=
  [("proj", .str "utm"), ("zone", .int zone)] ++ (if south then [("south", .null)] else []) ++
    Datum.wgs84.params ++ planeEnd

/-- The normal form of the projection of web maps: a ball with the equatorial radius. -/
def webMapNormal : Fields :=
  [("proj", .str "merc"), ("a", .int 6378137), ("b", .int 6378137), ("lat_ts", .int 0),
    ("lon_0", .int 0), ("x_0", .int 0), ("y_0", .int 0), ("k", .int 1), ("units", .str "m"),
    ("nadgrids", .str "@null"), ("wktext", .null), ("no_defs", .null)]

/-- The system with a code in the registry. -/
def ofCode? (code : Nat) : Option Crs :=
  let text := "EPSG:" ++ toString code
  if code = 4326 then some ⟨text, geographicNormal Datum.wgs84, worldEnsemble, true⟩
  else if code = 3857 then some ⟨text, webMapNormal, worldEnsemble, false⟩
  else if 32601 ≤ code ∧ code ≤ 32660 then
    some ⟨text, zoneNormal (code - 32600) false, worldEnsemble, false⟩
  else if 32701 ≤ code ∧ code ≤ 32760 then
    some ⟨text, zoneNormal (code - 32700) true, worldEnsemble, false⟩
  else if code = 4269 then
    let datum := onGrs80 "North American Datum 1983" [("datum", .str "NAD83")]
    some ⟨text, geographicNormal datum, datum, true⟩
  else if code = 4258 then
    let datum := onGrs80 "European Terrestrial Reference System 1989 ensemble"
      [("ellps", .str "GRS80")]
    some ⟨text, geographicNormal datum, datum, true⟩
  else if code = 4978 then
    some ⟨text, [("proj", .str "geocent")] ++ Datum.wgs84.params ++ planeEnd, worldEnsemble, false⟩
  else if code = 5714 then
    some ⟨text, [("vunits", .str "m"), ("no_defs", .null)],
      { worldGeodetic "Mean Sea Level" with params := [("ellps", .str "WGS84")] }, false⟩
  else none

/-- The system that a value names: a text holds a code, an object holds parameters. -/
def open? : Json → Except Fault Crs
  | .str s =>
    let digits := s.toList.drop 5
    let found : Option Crs :=
      if Text.lower (String.ofList (s.toList.take 5)) = "epsg:" ∧ digits ≠ [] ∧
          digits.all Char.isDigit then
        ofCode? (Decimal.ofDigits (digits.map fun c ↦ c.toNat - '0'.toNat))
      else none
    match found with
    | some crs => .ok crs
    | none => .error (.value .unknownReferenceSystem)
  | .obj params =>
    match ofParams? params with
    | some crs => .ok crs
    | none => .error (.value .unknownReferenceSystem)
  | _ => .error (.value .unknownReferenceSystem)

/-- The geographic system on the datum of `crs`: the system itself when it has longitudes and
latitudes. -/
def geodetic (crs : Crs) : Crs :=
  if crs.isGeographic then crs
  else ⟨crs.text, geographicNormal crs.datum, crs.datum, true⟩

/-- Whether a system has a projection, and with it an ellipsoid; heights alone have none. -/
def isHorizontal (crs : Crs) : Bool := crs.normal.has "proj"

instance instReferenceSystem : ReferenceSystem Crs where
  ofParams? := ofParams?
  params := normal
  geodetic? crs := if crs.isHorizontal then some crs.geodetic else none
  axes? crs := if crs.isHorizontal then some (crs.datum.semiMajor, crs.datum.semiMinor) else none
  datumName? crs := some crs.datum.name
  isGeographic := isGeographic

/-- The name of a datum as a raster file keeps it: families of realisations lose their mark. -/
def storedName (name : String) : String :=
  let mark := " ensemble".toList
  let cs := name.toList
  if mark.isSuffixOf cs then String.ofList (cs.take (cs.length - mark.length)) else name

/-- The system as it is read back from a raster file. -/
def stored (crs : Crs) : Crs :=
  { crs with datum := { crs.datum with name := storedName crs.datum.name } }

end Crs

end QuadMosaic
