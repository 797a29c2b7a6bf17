import QuadMosaic.Compose.Engine

/-!
# Warping

Every pixel of the destination looks up its place in the source and takes the mean of the four
source pixels around it, weighted by how near their centres are.  A place outside the source is
transparent.
-/

namespace QuadMosaic

namespace Warp

/-- The number of columns copied from the opposite edge on each side of an image that goes round. -/
def wrapPadding : Nat := 2

/-- The image with columns copied from the opposite edge on both sides. -/
def padded (pixels : Raster Float) : Raster Float :=
  { pixels with
    cols := pixels.cols + 2 * wrapPadding
    sample := fun b y x ↦
      pixels.sample b y (((x : Int) - wrapPadding) % (pixels.cols : Int)).toNat }

/-- The affine map of an image after columns were added on both sides. -/
def paddedTransform (t : Affine Float) : Affine Float :=
  t.compose (Affine.move (-Float.ofNat wrapPadding) 0.0)

/-- A number rounded to the nearest integer, a half going up. -/
def roundHalfUp (x : Float) : Int :=
  match Scalar.floor (x + 0.5) with
  | .whole n => n
  | _ => 0

/-- The integer below a finite number. -/
def floorInt (x : Float) : Int :=
  match Scalar.floor x with
  | .whole n => n
  | _ => 0

/-- One source pixel near a place, with its weight; nothing when it lies outside. -/
def tap (pixels : Raster Float) (b : Nat) (row col : Int) (weight : Float) :
    Option (Float × Float) :=
  if 0 ≤ row ∧ row < pixels.rows ∧ 0 ≤ col ∧ col < pixels.cols then
    some ((pixels.sample b row.toNat col.toNat).toScalar, weight)
  else none

/-- The weighted mean of the source pixels around a place inside the source. -/
def blend (pixels : Raster Float) (b : Nat) (p : Point Float) : Float :=
  let x := p.x - 0.5
  let y := p.y - 0.5
  let col := floorInt x
  let row := floorInt y
  let fx := x - Float.ofInt col
  let fy := y - Float.ofInt row
  let taps := [tap pixels b row col ((1.0 - fx) * (1.0 - fy)),
    tap pixels b row (col + 1) (fx * (1.0 - fy)),
    tap pixels b (row + 1) col ((1.0 - fx) * fy),
    tap pixels b (row + 1) (col + 1) (fx * fy)].filterMap id
  let sum := taps.foldl (fun s (v, w) ↦ s + v * w) 0.0
  let weight := taps.foldl (fun s (_, w) ↦ s + w) 0.0
  sum / weight

/-- A mean as a sample of the same kind as the samples of the source. -/
def settle (like : Sample Float) (v : Float) : Sample Float :=
  match like with
  | .whole _ => .whole (roundHalfUp v)
  | .real _ => .real v

/-- Pixels resampled from one georeference into a box of another. -/
def warp (project : Projector Float) (pixels : Raster Float) (source output : Georeference Float)
    (box : PixelBox) (wrap : Bool) : Raster Float :=
  let image := if wrap then padded pixels else pixels
  let transform := if wrap then paddedTransform source.transform else source.transform
  let target := output.transform.compose
    (Affine.move (Float.ofInt box.minX) (Float.ofInt box.minY))
  let rows := box.height.toNat
  let cols := box.width.toNat
  match project output.crs source.crs, transform.inverse with
  | some f, .ok back =>
    { bands := image.bands
      rows
      cols
      sample := fun b y x ↦
        let p := back.apply (f (target.apply ⟨Float.ofNat x + 0.5, Float.ofNat y + 0.5⟩))
        if 0.0 ≤ p.x ∧ p.x < Float.ofNat image.cols ∧ 0.0 ≤ p.y ∧ p.y < Float.ofNat image.rows then
          settle (image.sample b (floorInt p.y).toNat (floorInt p.x).toNat) (blend image b p)
        else .whole 0 }
  | _, _ => Raster.zeros image.bands rows cols

end Warp

end QuadMosaic
