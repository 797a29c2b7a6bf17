import QuadMosaic.Canvas.Basic
import QuadMosaic.Proofs.Boxes
import QuadMosaic.Proofs.Steps

/-!
# How a canvas comes about

A canvas is made empty, views are inserted one after the other, and it is prepared once.  An
insertion only goes through when the bands of the array are those of the canvas, and places the view
so that its box is as large as its pixels are.  So on every canvas that comes about in this way each
view fits its box, and the box of the canvas holds all pixels of all views.
-/

namespace QuadMosaic

variable {α : Type}

namespace View

/-- A view has a number of bands, and its box is as large as its pixels are. -/
structure Fits (v : View α) (bands : Int) : Prop where
  bands : (v.pixels.bands : Int) = bands
  box : v.box.IsSized v.pixels.rows v.pixels.cols

/-- A view all of whose samples are the same integer. -/
def flat (bands rows cols : Nat) (x y n : Int) : View α :=
  ⟨⟨bands, rows, cols, fun _ _ _ ↦ .whole n⟩, PixelBox.ofSize x y cols rows, ""⟩

end View

namespace Canvas

/-- The canvas of a number of bands and a channel type after insertions that made some views, the
first one first. -/
inductive Filled (bands : Int) (channel : ChannelType) : List (View α) → Canvas α → Prop
  | new : Filled bands channel [] (Canvas.new bands channel)
  | insert {views : List (View α)} {c c' : Canvas α} {v : View α} (block : Block α) (x y : Int)
      (label : String) : Filled bands channel views c → c.insert block x y label = .ok (c', v) →
      Filled bands channel (views ++ [v]) c'

/-- What holds of a canvas at all times. -/
structure Sound (c : Canvas α) : Prop where
  fits : ∀ v ∈ c.views, v.Fits c.bands
  covers : ∀ v ∈ c.views, ∀ x y, v.box.Holds x y → c.box.Holds x y

/-- An array is accepted exactly when the canvas is not prepared, and the array has three dimensions
and the bands of the canvas. -/
theorem accept_eq_ok_iff {c : Canvas α} {block : Block α} {pixels : Raster α} :
    c.accept block = .ok pixels ↔
      c.extent = none ∧ block.toRaster? = some pixels ∧ (pixels.bands : Int) = c.bands := by
  unfold accept
  constructor
  · intro h
    split at h
    · cases h
    case isFalse hextent =>
      split at h
      · cases h
      case h_2 found hfound =>
        split at h
        · cases h
        case isFalse hbands =>
          cases h
          exact ⟨Option.not_isSome_iff_eq_none.1 hextent, hfound, Decidable.not_not.1 hbands⟩
  · rintro ⟨hextent, hpixels, hbands⟩
    rw [hextent, hpixels, if_neg (by decide)]
    exact if_neg (Decidable.not_not.2 hbands)

/-- All that an insertion does. -/
theorem eq_of_insert {c c' : Canvas α} {block : Block α} {x y : Int} {label : String} {v : View α}
    (h : c.insert block x y label = .ok (c', v)) :
    v.Fits c.bands ∧ c' = { c with views := c.views ++ [v], box := c.box.union v.box } := by
  obtain ⟨pixels, hpixels, h⟩ := exists_of_bind_eq_ok h
  cases h
  exact ⟨⟨(accept_eq_ok_iff.1 hpixels).2.2, ⟨rfl, rfl⟩⟩, rfl⟩

/-- All that a preparation does. -/
theorem eq_of_prepare {c c' : Canvas α} {extent : PixelBox} {draft : Bool}
    (h : c.prepare extent draft = .ok c') : c' = { c with extent := some extent, draft } := by
  unfold prepare at h
  split at h
  · cases h
  · cases h
    rfl

theorem sound_new (bands : Int) (channel : ChannelType) :
    (Canvas.new bands channel : Canvas α).Sound :=
  ⟨fun _ hv ↦ absurd hv List.not_mem_nil, fun _ hv ↦ absurd hv List.not_mem_nil⟩

namespace Sound

variable {c c' : Canvas α}

theorem insert (hc : c.Sound) {block : Block α} {x y : Int} {label : String} {v : View α}
    (h : c.insert block x y label = .ok (c', v)) : c'.Sound := by
  obtain ⟨hv, rfl⟩ := eq_of_insert h
  constructor
  · intro u hu
    rcases List.mem_append.1 hu with hu | hu
    · exact hc.fits u hu
    · obtain rfl := List.mem_singleton.1 hu
      exact hv
  · intro u hu x y hxy
    rcases List.mem_append.1 hu with hu | hu
    · exact PixelBox.mem_union_left (hc.covers u hu x y hxy)
    · obtain rfl := List.mem_singleton.1 hu
      exact PixelBox.mem_union_right hxy

theorem prepare (hc : c.Sound) {extent : PixelBox} {draft : Bool}
    (h : c.prepare extent draft = .ok c') : c'.Sound := by
  obtain rfl := eq_of_prepare h
  exact ⟨hc.fits, hc.covers⟩

end Sound

namespace Filled

variable {bands : Int} {channel : ChannelType} {views : List (View α)} {c c' : Canvas α}

theorem sound (h : Filled bands channel views c) : c.Sound := by
  induction h with
  | new => exact sound_new bands channel
  | insert _ _ _ _ _ hinsert ih => exact ih.insert hinsert

/-- The canvas holds the views in the order of their insertion. -/
theorem fields (h : Filled bands channel views c) :
    c.bands = bands ∧ c.channel = channel ∧ c.views = views ∧ c.extent = none := by
  induction h with
  | new => exact ⟨rfl, rfl, rfl, rfl⟩
  | insert _ _ _ _ _ hinsert ih =>
    obtain ⟨hb, hc, hv, he⟩ := ih
    obtain ⟨-, rfl⟩ := eq_of_insert hinsert
    exact ⟨hb, hc, by rw [hv], he⟩

/-- A canvas that was filled and prepared. -/
theorem prepare (h : Filled bands channel views c) {extent : PixelBox} {draft : Bool}
    (hprepare : c.prepare extent draft = .ok c') :
    c'.Sound ∧ c'.bands = bands ∧ c'.channel = channel ∧ c'.views = views ∧
      c'.extent.isSome = true ∧ c'.draft = draft := by
  obtain ⟨hb, hc, hv, -⟩ := h.fields
  have hsound := h.sound.prepare hprepare
  obtain rfl := eq_of_prepare hprepare
  exact ⟨hsound, hb, hc, hv, rfl, rfl⟩

end Filled

end Canvas

end QuadMosaic
