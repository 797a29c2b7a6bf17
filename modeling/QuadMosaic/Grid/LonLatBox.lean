import QuadMosaic.Json.Basic

/-!
# Boxes of longitudes and latitudes
-/

namespace QuadMosaic

/-- A rectangle of the globe, in degrees. -/
structure LonLatBox (α : Type) where
  west : α
  south : α
  east : α
  north : α
  deriving Repr, DecidableEq

namespace LonLatBox

/-- A function applied to all edges. -/
def map {α β : Type} (f : α → β) (b : LonLatBox α) : LonLatBox β :=
  ⟨f b.west, f b.south, f b.east, f b.north⟩

/-- The edges of a box under their names. -/
def toFields (b : LonLatBox Json) : Fields :=
  [("west", b.west), ("south", b.south), ("east", b.east), ("north", b.north)]

/-- The edges of a box as data. -/
def toJson (b : LonLatBox Float) : Json := .obj (b.map .real).toFields

end LonLatBox

end QuadMosaic
