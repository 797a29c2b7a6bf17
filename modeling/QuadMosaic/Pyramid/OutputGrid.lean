import QuadMosaic.Georeference.Basic
import QuadMosaic.Grid.Resolution

/-!
# The grid of a pyramid

Each profile on the globe places the pixels of its pyramid in a reference system of its own.
-/

namespace QuadMosaic

namespace OutputGrid

variable {α : Type} [Scalar α] {κ : Type} [Coordinate κ]

open Scalar

/-- A length divided into a number of parts; a failure when there are none. -/
def share (length : α) (parts : κ) : Except Fault α := do
  let parts ← Coordinate.toScalar parts
  if eq parts zero then .error (.value .divisionByZero) else pure (length / parts)

/-- A grid of longitudes and latitudes: a full turn wide, `latSpan` degrees high, from `north`
down. -/
def geographic (datum : Datum) (resolution : Resolution κ) (north latSpan : Int) :
    Except Fault (Georeference α) := do
  let columns ← resolution.columns
  let width ← share (ofInt 360) columns
  let height ← share (-ofInt latSpan) resolution.rows
  Georeference.geographic datum ⟨width, zero, ofInt (-180), zero, height, ofInt north⟩

/-- Half a turn in radians. -/
def pi : α := ofInt 884279719003555 / ofInt 281474976710656

/-- The square grid of web maps on a ball with the equatorial radius of the datum. -/
def webMap (datum : Datum) (resolution : Resolution κ) : Except Fault (Georeference α) := do
  let radius ← datum.semiMajor.toDouble
  let half : α := pi * ofFloat radius
  let columns ← resolution.columns
  let width ← share (ofInt 2 * half) columns
  let height ← share (ofInt (-2) * half) resolution.rows
  let crs ← ReferenceSystem.build
    [("proj", .str "merc"), ("lat_ts", .real 0.0), ("lon_0", .real 0.0), ("units", .str "m")]
    (Datum.sphere datum.semiMajor (datum.name ++ " sphere"))
  pure ⟨crs, ⟨width, zero, -half, zero, height, half⟩⟩

/-- The grid of a profile. -/
def ofProfile (profile : Profile) (datum : Datum) (resolution : Resolution κ) :
    Except Fault (Georeference α) :=
  match profile with
  | .kml | .gigapan => geographic datum resolution 90 360
  | .tms => geographic datum resolution 180 360
  | .uniview | .celestia => geographic datum resolution 90 180
  | .gmap => webMap datum resolution
  | .none | .gigapanNoproj => .error (.config (.noOutputGrid profile))

end OutputGrid

end QuadMosaic
