/-!
# Pyramid profiles

The kinds of viewer that a tile pyramid can be made for.
-/

namespace QuadMosaic

/-- The viewer that a pyramid is made for. -/
inductive Profile
  | none | kml | tms | uniview | gmap | celestia | gigapan | gigapanNoproj
  deriving DecidableEq, Repr, Inhabited

namespace Profile

/-- All profiles, in the order in which they are listed. -/
def all : List Profile := [none, kml, tms, uniview, gmap, celestia, gigapan, gigapanNoproj]

/-- The name of a profile. -/
def name : Profile → String
  | none => "none"
  | kml => "kml"
  | tms => "tms"
  | uniview => "uniview"
  | gmap => "gmap"
  | celestia => "celestia"
  | gigapan => "gigapan"
  | gigapanNoproj => "gigapan-noproj"

/-- Whether the pyramid lies on the globe. -/
def isGeoreferenced (p : Profile) : Bool := p != none && p != gigapanNoproj

/-- Whether the pyramid is cut down to a square around the data. -/
def isKmlLike (p : Profile) : Bool := p == kml || p == gigapan

end Profile

end QuadMosaic
