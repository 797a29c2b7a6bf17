import QuadMosaic.Grid.Quantity

/-!
# Datums

A datum is the figure of a planet: a name, the parameters that denote it and its two axes, which
are kept as they were written.  A run may replace the datum of its sources by one of a few.
-/

namespace QuadMosaic

/-- The figure of a planet. -/
structure Datum where
  name : String
  /-- The parameters that denote the datum. -/
  params : Fields
  /-- The equatorial radius in metres. -/
  semiMajor : Quantity
  /-- The polar radius in metres. -/
  semiMinor : Quantity
  deriving Repr

namespace Datum

/-- The parameters that belong to a datum rather than to a projection. -/
def keys : List String :=
  ["datum", "ellps", "a", "b", "R", "rf", "f", "towgs84", "nadgrids", "pm"]

/-- Whether a parameter belongs to a datum. -/
def isKey (key : String) : Bool := keys.contains key

/-- The parameters that belong to a projection. -/
def projectionParamsOf (params : Fields) : Fields := params.filter fun f ↦ !isKey f.1

/-- The keys of a datum in the order of text. -/
def sortedKeys : List String :=
  ["R", "a", "b", "datum", "ellps", "f", "nadgrids", "pm", "rf", "towgs84"]

/-- The parameters that belong to a datum, sorted by key. -/
def paramsOf (params : Fields) : Fields :=
  sortedKeys.filterMap fun key ↦ (params.get? key).map (key, ·)

/-- A ball of a given radius. -/
def sphere (radius : Quantity) (name : String := "USER SUPPLIED DATUM") : Datum where
  name := name
  params := [("a", radius.toJson), ("b", radius.toJson)]
  semiMajor := radius
  semiMinor := radius

/-- The datum of satellite positioning. -/
def wgs84 : Datum where
  name := "WGS84"
  params := [("datum", .str "WGS84")]
  semiMajor := .real 6378137.0
  semiMinor := .real 6356752.314245179

/-- The Moon as a ball. -/
def moon : Datum := sphere (.real 1737400.0) "D_MOON"

/-- Mars as a ball. -/
def mars : Datum := sphere (.real 3396190.0) "D_MARS"

end Datum

/-- What replaces the datum of the sources. -/
inductive DatumOverride
  | none | wgs84 | lunar | mars | sphere
  deriving DecidableEq, Repr, Inhabited

namespace DatumOverride

/-- All replacements, in the order in which they are listed. -/
def all : List DatumOverride := [none, wgs84, lunar, mars, sphere]

/-- The name of a replacement. -/
def name : DatumOverride → String
  | none => "none"
  | wgs84 => "wgs84"
  | lunar => "lunar"
  | mars => "mars"
  | sphere => "sphere"

/-- The replacement that a value names; null names none. -/
def parse (value : Json) : Except Fault DatumOverride :=
  match value with
  | .null => .ok none
  | _ =>
    match all.find? (·.name = Text.lower (Text.strip value.display)) with
    | some kind => .ok kind
    | Option.none => .error (.config (.unknownDatum value.display))

/-- The datum of a replacement, if there is one; a ball needs a positive radius. -/
def datum (kind : DatumOverride) (radius : Option Quantity) : Except Fault (Option Datum) :=
  match kind with
  | none => .ok Option.none
  | wgs84 => .ok (some Datum.wgs84)
  | lunar => .ok (some Datum.moon)
  | mars => .ok (some Datum.mars)
  | sphere =>
    match radius with
    | some r =>
      if r ≤ 0 then .error (.config .radiusNotPositive)
      else do
        let r ← r.toDouble
        pure (some (Datum.sphere (.real r)))
    | Option.none => .error (.config .radiusNotPositive)

end DatumOverride

end QuadMosaic
