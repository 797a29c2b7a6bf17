import QuadMosaic.Grid.Coordinate

/-!
# The resolution of a pyramid

One number, the pixels that a full turn would take, and the ratio of a pixel's sides fix the size of
the whole pyramid.
-/

namespace QuadMosaic

/-- The resolution of a pyramid. -/
structure Resolution (κ : Type := Int) where
  /-- The number of pixel rows. -/
  total : κ
  /-- How many times wider than high a pixel is. -/
  aspectRatio : κ
  deriving DecidableEq, Repr, Inhabited

namespace Resolution

variable {κ : Type} [Coordinate κ]

/-- The number of pixel columns, each as wide as `aspectRatio` of its rows. -/
def columns (r : Resolution κ) : Except Fault κ := Coordinate.quotient r.total r.aspectRatio

/-- The number of pixel rows. -/
def rows (r : Resolution κ) : κ := r.total

theorem columns_eq_ok {r : Resolution} (h : r.aspectRatio ≠ 0) :
    r.columns = .ok (Int.fdiv r.total r.aspectRatio) := Coordinate.quotient_int h

/-- The sizes of a resolution as data. -/
def toJson (r : Resolution κ) : Except Fault Json := do
  let columns ← r.columns
  pure (.obj [("total", Coordinate.toJson r.total),
    ("aspect_ratio", Coordinate.toJson r.aspectRatio),
    ("xresolution", Coordinate.toJson columns), ("yresolution", Coordinate.toJson r.rows)])

end Resolution

end QuadMosaic
