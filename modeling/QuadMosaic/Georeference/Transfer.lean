import QuadMosaic.Georeference.Basic
import QuadMosaic.Grid.PixelBox

/-!
# From the pixels of one raster to those of another

Pixels of a source reach those of a destination through the two affine maps and the map between the
two reference systems.
-/

namespace QuadMosaic

/-- A source and a destination between which pixels are carried. -/
structure Transfer (α : Type) where
  source : Georeference α
  destination : Georeference α

namespace Transfer

variable {α : Type} [Scalar α]

/-- The map from source pixels to destination pixels. -/
def forward (t : Transfer α) (project : Projector α) : Except Fault (Point α → Point α) := do
  let f ← project.between t.source.crs t.destination.crs
  let back ← t.destination.pointToPixel
  pure fun p ↦ back (f (t.source.pixelToPoint p))

/-- The map from destination pixels to source pixels. -/
def reverse (t : Transfer α) (project : Projector α) : Except Fault (Point α → Point α) :=
  forward ⟨t.destination, t.source⟩ project

/-- `n` evenly spaced numbers from `start` to `stop`, both included; the first alone when `n` is
one. -/
def spaced (start stop : α) (n : Nat) : List α :=
  let step := (stop - start) / Scalar.ofInt ((n : Int) - 1)
  (List.range n).map fun i ↦
    if i = 0 then start else if i + 1 = n then stop else Scalar.ofInt i * step + start

/-- The grid of sample points between two corners, the edges included. -/
def grid (least greatest : Point α) (samples : Nat) : List (Point α) :=
  (spaced least.y greatest.y samples).flatMap fun y ↦
    (spaced least.x greatest.x samples).map fun x ↦ ⟨x, y⟩

/-- Real bounds of a set of points. -/
structure Extremes (α : Type) where
  minX : α
  minY : α
  maxX : α
  maxY : α

/-- The bounds widened to hold a point. -/
def Extremes.widen (e : Extremes α) (p : Point α) : Extremes α :=
  ⟨Scalar.lesser e.minX p.x, Scalar.lesser e.minY p.y, Scalar.greater e.maxX p.x,
    Scalar.greater e.maxY p.y⟩

/-- The bounds of a list of points, when there are any. -/
def extremes? : List (Point α) → Option (Extremes α)
  | [] => none
  | p :: rest => some (rest.foldl Extremes.widen ⟨p.x, p.y, p.x, p.y⟩)

/-- Whether both coordinates of a point are finite. -/
def isFinitePoint (p : Point α) : Bool := Scalar.isFinite p.x && Scalar.isFinite p.y

/-- The destination bounds of a source box, from a grid of sample points that includes its edges.
Points without a finite image are left out. -/
def forwardExtremes {κ : Type} [Coordinate κ] (t : Transfer α) (project : Projector α)
    (box : PixelBox κ) (samples : Nat) : Except Fault (Option (Extremes α)) := do
  let minX ← Coordinate.toScalar box.minX
  let minY ← Coordinate.toScalar box.minY
  let maxX ← Coordinate.toScalar box.maxX
  let maxY ← Coordinate.toScalar box.maxY
  let f ← t.forward project
  pure (extremes? (((grid ⟨minX, minY⟩ ⟨maxX, maxY⟩ samples).map f).filter isFinitePoint))

/-- The destination box of a source box: the integer box around the sampled bounds. -/
def forwardBox {κ : Type} [Coordinate κ] (t : Transfer α) (project : Projector α)
    (box : PixelBox κ) (samples : Int := 33) : Except Fault PixelBox :=
  if box.isEmpty then .ok PixelBox.empty
  else if samples < 0 then .error (.value .badValue)
  else do
    match ← t.forwardExtremes project box samples.toNat with
    | none => pure PixelBox.empty
    | some e => PixelBox.around PixelBox.defaultSlack e.minX e.minY e.maxX e.maxY

end Transfer

end QuadMosaic
