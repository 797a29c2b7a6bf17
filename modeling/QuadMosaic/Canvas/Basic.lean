import QuadMosaic.Raster.Basic

/-!
# The canvas

Warped images are laid onto a canvas one after the other; each is kept as a view with its place.
The canvas is prepared once, after which it can be read and no view can be added.
-/

namespace QuadMosaic

/-- An image placed on a canvas.  Its last band is transparency. -/
structure View (α : Type) (κ : Type := Int) where
  pixels : Raster α
  box : PixelBox κ
  label : String := ""

/-- Views in the order in which they were laid down. -/
structure Canvas (α : Type) (κ : Type := Int) where
  /-- The number of bands that every view has to have. -/
  bands : Int
  channel : ChannelType
  views : List (View α κ)
  /-- The least box around all views. -/
  box : PixelBox κ
  /-- The box that the canvas was prepared for. -/
  extent : Option (PixelBox κ)
  /-- Whether later views hide earlier ones rather than being mixed with them. -/
  draft : Bool

namespace Canvas

variable {α κ : Type} [Coordinate κ]

/-- A canvas without views. -/
def new (bands : Int) (channel : ChannelType) : Canvas α κ :=
  ⟨bands, channel, [], PixelBox.empty, none, true⟩

/-- The pixels that an array adds to the canvas; a failure when none can be added any more, or when
the array has not three dimensions or not as many bands as the canvas. -/
def accept (c : Canvas α κ) (block : Block α) : Except Fault (Raster α) :=
  if c.extent.isSome then .error (.canvas .insertAfterPrepare)
  else
    match block.toRaster? with
    | none => .error (.canvas (.shape (.other c.bands block.shape)))
    | some pixels =>
      if pixels.bands ≠ c.bands then .error (.canvas (.shape (.other c.bands block.shape)))
      else .ok pixels

/-- The canvas with one more view, its top left corner at `(x, y)`, and that view. -/
def insert (c : Canvas α κ) (block : Block α) (x y : κ) (label : String := "") :
    Except Fault (Canvas α κ × View α κ) := do
  let pixels ← c.accept block
  let view : View α κ :=
    ⟨pixels, PixelBox.ofSize x y (Coordinate.ofInt pixels.cols) (Coordinate.ofInt pixels.rows),
      label⟩
  pure ({ c with views := c.views ++ [view], box := c.box.union view.box }, view)

/-- The canvas prepared for an extent. -/
def prepare (c : Canvas α κ) (extent : PixelBox κ) (draft : Bool := true) :
    Except Fault (Canvas α κ) :=
  if c.extent.isSome then .error (.canvas .preparedTwice)
  else .ok { c with extent := some extent, draft }

end Canvas

end QuadMosaic
