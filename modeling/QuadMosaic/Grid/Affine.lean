import QuadMosaic.Scalar

/-!
# Affine maps of the plane

Pixel coordinates and the coordinates of a reference system differ by an affine map.  All formulas
are evaluated from left to right, which fixes the rounding.
-/

namespace QuadMosaic

/-- A point of the plane. -/
structure Point (α : Type) where
  x : α
  y : α
  deriving DecidableEq, Repr, Inhabited

/-- The map `x' = a x + b y + c`, `y' = d x + e y + f`. -/
structure Affine (α : Type) where
  a : α
  b : α
  c : α
  d : α
  e : α
  f : α
  deriving DecidableEq, Repr

namespace Affine

variable {α : Type} [Scalar α]

open Scalar

/-- The map that leaves every point in place. -/
def identity : Affine α := ⟨one, zero, zero, zero, one, zero⟩

/-- The map that moves every point by `(dx, dy)`. -/
def move (dx dy : α) : Affine α := ⟨one, zero, dx, zero, one, dy⟩

/-- The image of a point. -/
def apply (t : Affine α) (p : Point α) : Point α :=
  ⟨t.a * p.x + t.b * p.y + t.c, t.d * p.x + t.e * p.y + t.f⟩

/-- The factor by which areas change. -/
def determinant (t : Affine α) : α := t.a * t.e - t.b * t.d

/-- The map that undoes `t`; a failure when `t` flattens the plane. -/
def inverse (t : Affine α) : Except Fault (Affine α) :=
  if eq t.determinant zero then .error (.value .notInvertible)
  else
    let scale := one / t.determinant
    let a := t.e * scale
    let b := -t.b * scale
    let d := -t.d * scale
    let e := t.a * scale
    .ok ⟨a, b, -t.c * a - t.f * b, d, e, -t.c * d - t.f * e⟩

/-- The map that first does `inner` and then `outer`. -/
def compose (outer inner : Affine α) : Affine α where
  a := outer.a * inner.a + outer.b * inner.d
  b := outer.a * inner.b + outer.b * inner.e
  c := outer.a * inner.c + outer.b * inner.f + outer.c
  d := outer.d * inner.a + outer.e * inner.d
  e := outer.d * inner.b + outer.e * inner.e
  f := outer.d * inner.c + outer.e * inner.f + outer.f

/-- Whether two maps have equal coefficients. -/
def same (s t : Affine α) : Bool :=
  eq s.a t.a && eq s.b t.b && eq s.c t.c && eq s.d t.d && eq s.e t.e && eq s.f t.f

/-- The coefficients in order. -/
def toList (t : Affine α) : List α := [t.a, t.b, t.c, t.d, t.e, t.f]

/-- The map moved by `(dx, dy)` afterwards. -/
def nudge (t : Affine α) (dx dy : α) : Affine α := { t with c := t.c + dx, f := t.f + dy }

end Affine

end QuadMosaic
