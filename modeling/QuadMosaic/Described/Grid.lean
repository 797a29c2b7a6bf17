import QuadMosaic.Described.Member
import QuadMosaic.Georeference.Bounds
import QuadMosaic.Grid.LonLatBox
import QuadMosaic.Grid.PixelBox
import QuadMosaic.Grid.Resolution
import QuadMosaic.Pixel.Range

/-!
# Points, boxes and ranges described by data

Points and affine maps are lists of doubles.  The corners of boxes and the sizes of grids are kept
as they are written.
-/

namespace QuadMosaic

/-- The point that a value lists. -/
def Point.ofJson (value : Json) : Except Fault (Point Float) := do
  match ← value.toItems with
  | [x, y] => pure ⟨← x.toReal, ← y.toReal⟩
  | _ => throw (.value .badValue)

/-- The affine map whose six coefficients a value lists. -/
def Affine.ofJson (value : Json) : Except Fault (Affine Float) := do
  match ← (← value.toItems).mapM Json.toReal with
  | [a, b, c, d, e, f] => pure ⟨a, b, c, d, e, f⟩
  | _ => throw (.value .badKind)

namespace ManualBounds

/-- The edges that a value lists: west, south, east and north. -/
def ofList (value : Json) : Except Fault (ManualBounds Float) := do
  match ← (← value.toItems).mapM Json.toReal with
  | [west, south, east, north] => pure ⟨north, south, east, west⟩
  | _ => throw (.value .badValue)

/-- The edges that an object names. -/
def ofMembers (fields : Fields) : Except Fault (ManualBounds Float) := do
  pure ⟨← fields.real "north", ← fields.real "south", ← fields.real "east", ← fields.real "west"⟩

end ManualBounds

namespace PixelBox

/-- The box whose corners a value lists, as they are written. -/
def ofJson (value : Json) : Except Fault (PixelBox Quantity) := do
  match ← (← value.toItems).mapM Quantity.ofJson with
  | [minX, minY, maxX, maxY] => pure ⟨minX, minY, maxX, maxY⟩
  | _ => throw (.value .badKind)

/-- The box of pixels whose corners a value lists. -/
def ofPixels (value : Json) : Except Fault PixelBox := do (← ofJson value).indices

end PixelBox

/-- The box of the globe whose edges an object names, as they are written. -/
def LonLatBox.ofMembers (fields : Fields) : Except Fault (LonLatBox Quantity) := do
  pure ⟨← fields.readQuantity "west", ← fields.readQuantity "south", ← fields.readQuantity "east",
    ← fields.readQuantity "north"⟩

/-- The resolution under a key, as it is written. -/
def Resolution.ofMember (fields : Fields) (key : String := "resolution") :
    Except Fault (Resolution Quantity) := do
  let sizes := fields.members key
  pure ⟨← sizes.quantity "total", ← sizes.quantity "aspect_ratio" (.int 1)⟩

/-- A resolution in whole pixels; a failure when it has fractions. -/
def Resolution.whole (r : Resolution Quantity) : Except Fault Resolution :=
  match r.total.whole?, r.aspectRatio.whole? with
  | some total, some aspectRatio => .ok ⟨total, aspectRatio⟩
  | _, _ => .error (.value .badKind)

namespace PixelRange

/-- The range that an object names, as it is written. -/
def ofMembers (fields : Fields) : Except Fault (PixelRange Quantity) := do
  pure ⟨← fields.readQuantity "lo", ← fields.readQuantity "hi"⟩

/-- Whether a range has a width. -/
def isWide (r : PixelRange Quantity) : Bool := !(Quantity.atMost r.span (.whole 0))

/-- A range to normalise doubles with; a failure when it has a width and lies beyond all doubles. -/
def checked (r : PixelRange Quantity) : Except Fault (PixelRange Quantity) :=
  if r.isWide then do
    let _ ← r.lo.toDouble
    let _ ← r.span.toDouble
    pure r
  else .ok r

/-- A range in doubles; one without width is zero. -/
def toDoubles (r : PixelRange Quantity) : Except Fault (PixelRange Float) := do
  let r ← r.checked
  pure (if r.isWide then ⟨r.lo.toFloat, r.hi.toFloat⟩ else ⟨0.0, 0.0⟩)

end PixelRange

end QuadMosaic
