import QuadMosaic.Grid.Affine
import QuadMosaic.Json.Display

/-!
# Bounds typed by hand

The four edges of an image in units of its reference system.
-/

namespace QuadMosaic

/-- The edges of an image. -/
structure ManualBounds (α : Type) where
  north : α
  south : α
  east : α
  west : α
  deriving DecidableEq, Repr

namespace ManualBounds

variable {α : Type} [Scalar α]

/-- The edges of an image that spans the globe. -/
def globe : ManualBounds α :=
  ⟨Scalar.ofInt 90, Scalar.ofInt (-90), Scalar.ofInt 180, Scalar.ofInt (-180)⟩

/-- The affine map that spreads an image of the given size between the edges. -/
def transform (b : ManualBounds α) (cols rows : Int) : Except Fault (Affine α) :=
  if cols = 0 ∨ rows = 0 then .error (.value .divisionByZero)
  else
    .ok ⟨(b.east - b.west) / Scalar.ofInt cols, Scalar.zero, b.west, Scalar.zero,
      (b.south - b.north) / Scalar.ofInt rows, b.north⟩

end ManualBounds

/-- Edges as data. -/
def ManualBounds.toJson (b : ManualBounds Float) : Json :=
  .obj [("north", .real b.north), ("south", .real b.south), ("east", .real b.east),
    ("west", .real b.west)]

end QuadMosaic
