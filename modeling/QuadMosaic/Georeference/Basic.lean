import QuadMosaic.Crs.Transform

/-!
# Georeferences

A georeference places the pixels of a raster in a reference system by an affine map.  Integer pixel
coordinates are corners, so the pixel `(0, 0)` covers `[0, 1) × [0, 1)`.
-/

namespace QuadMosaic

/-- An affine map from pixels into a reference system. -/
structure Georeference (α : Type) (C : Type := Crs) where
  crs : C
  transform : Affine α

namespace Georeference

variable {α C : Type} [Scalar α]

/-- Pixels as longitudes and latitudes on a datum, after an affine map. -/
def geographic [ReferenceSystem C] (datum : Datum) (transform : Affine α := Affine.identity) :
    Except Fault (Georeference α C) := do
  let crs ← ReferenceSystem.build [("proj", .str "longlat")] datum
  pure ⟨crs, transform⟩

/-- The coordinates of a pixel position. -/
def pixelToPoint (g : Georeference α C) (p : Point α) : Point α := g.transform.apply p

/-- The map from coordinates to pixel positions. -/
def pointToPixel (g : Georeference α C) : Except Fault (Point α → Point α) := do
  let inverse ← g.transform.inverse
  pure inverse.apply

/-- The map from pixel positions to longitudes and latitudes. -/
def pixelToLonLat (g : Georeference α) (project : Projector α) :
    Except Fault (Point α → Point α) := do
  let f ← project.between g.crs g.crs.geodetic
  pure fun p ↦ f (g.pixelToPoint p)

/-- The map from longitudes and latitudes to pixel positions. -/
def lonLatToPixel (g : Georeference α) (project : Projector α) :
    Except Fault (Point α → Point α) := do
  let f ← project.between g.crs.geodetic g.crs
  let back ← g.pointToPixel
  pure fun p ↦ back (f p)

/-- The georeference with another affine map. -/
def withTransform (g : Georeference α C) (transform : Affine α) : Georeference α C :=
  { g with transform }

/-- The georeference on another datum. -/
def withDatum [ReferenceSystem C] (g : Georeference α C) (datum : Datum) :
    Except Fault (Georeference α C) := do
  let crs ← ReferenceSystem.replaceDatum g.crs datum
  pure { g with crs }

/-- The georeference in another projection. -/
def withProjection [ReferenceSystem C] (g : Georeference α C) (spec : ProjectionSpec) :
    Except Fault (Georeference α C) := do
  let crs ← ReferenceSystem.replaceProjection g.crs spec
  pure { g with crs }

/-- The georeference moved by `(dx, dy)` in units of its system. -/
def nudge (g : Georeference α C) (dx dy : α) : Georeference α C :=
  { g with transform := g.transform.nudge dx dy }

/-- Whether a raster of the given size spans the whole globe: the extreme longitudes and latitudes
fall within one pixel of its edges. -/
def isGlobal (g : Georeference α) (project : Projector α) (cols rows : Nat) : Except Fault Bool :=
  if !g.crs.isGeographic then .ok false
  else do
    let f ← g.lonLatToPixel project
    let near (x : α) (edge : Nat) : Bool :=
      Scalar.lt (Scalar.abs (x - Scalar.ofInt edge)) Scalar.one
    let at' (lon lat : Int) : Point α := f ⟨Scalar.ofInt lon, Scalar.ofInt lat⟩
    pure (near (at' (-180) 0).x 0 && near (at' 180 0).x cols &&
      near (at' 0 90).y 0 && near (at' 0 (-90)).y rows)

/-- A georeference as data. -/
def toJson (g : Georeference Float) : Json :=
  .obj [("crs", .str g.crs.text), ("datum", .str g.crs.datum.name),
    ("transform", Json.ofList .real g.transform.toList)]

end Georeference

end QuadMosaic
