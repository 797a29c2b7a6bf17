import QuadMosaic.Canvas.Read
import QuadMosaic.Proofs.Canvas
import QuadMosaic.Proofs.Double

/-!
# Reading is local

A reading works on arrays: it cuts slices out of views and lays them onto slices of a sheet, with
offsets counted from the corners of the view and of the window.  Here it is followed at one pixel.
The slices of a view and of a window that belong to their common part are equally large, and the
cell of a pixel changes with a view exactly when the view holds the pixel, to what the cell and the
samples of the view at that pixel say.

So what is read at a pixel is a fold over the views that does not depend on the window.
-/

namespace QuadMosaic

variable {α : Type}

/-- The samples at a pixel of a box that a raster fills, by band. -/
def Raster.pixelAt (r : Raster α) (box : PixelBox) (x y : Int) (band : Nat) : Sample α :=
  r.sample band (y - box.minY).toNat (x - box.minX).toNat

/-! ## Slices -/

theorem sliceBound_of_mem {length : Nat} {bound : Int} (h : 0 ≤ bound) (h' : bound ≤ length) :
    sliceBound length bound = bound.toNat := by
  unfold sliceBound
  split <;> omega

namespace PixelBox

/-- A box seen from the corner of an array that it lies in. -/
theorem Inside.slice_eq {b outer : PixelBox} {rows cols : Nat} (h : b.Inside outer)
    (hsize : outer.IsSized rows cols) :
    Slice.ofBox rows cols (b.shift (-outer.minX) (-outer.minY)) =
      ⟨(b.minY - outer.minY).toNat, (b.maxY - outer.minY).toNat, (b.minX - outer.minX).toNat,
        (b.maxX - outer.minX).toNat⟩ := by
  obtain ⟨hleft, htop, hright, hbottom, hcols, hrows⟩ := h
  obtain ⟨hwidth, hheight⟩ := hsize
  simp only [Slice.ofBox, shift, ← Int.sub_eq_add_neg]
  rw [sliceBound_of_mem (by omega) (by omega), sliceBound_of_mem (by omega) (by omega),
    sliceBound_of_mem (by omega) (by omega), sliceBound_of_mem (by omega) (by omega)]

end PixelBox

/-- A slice holds the pixels of its box. -/
theorem PixelBox.Inside.holds_slice_iff {b outer : PixelBox} (h : b.Inside outer) {x y : Int}
    (hxy : outer.Holds x y) :
    (Slice.mk (b.minY - outer.minY).toNat (b.maxY - outer.minY).toNat (b.minX - outer.minX).toNat
      (b.maxX - outer.minX).toNat).holds (y - outer.minY).toNat (x - outer.minX).toNat = true ↔
      b.Holds x y := by
  obtain ⟨hleft, htop, -, -, -, -⟩ := h
  unfold Holds at hxy ⊢
  simp only [Slice.holds, Bool.and_eq_true, decide_eq_true_eq]
  omega

/-! ## One view -/

section

variable [Scalar α]

/-- The cell of a pixel with a view on it. -/
def View.layAt (v : View α) (draft : Bool) (channel : ChannelType) (x y : Int) (cell : Cell α) :
    Cell α :=
  if v.box.Holds x y then
    cell.lay draft channel v.pixels.bands fun b ↦ (v.pixels.pixelAt v.box x y b).widened
  else cell

namespace Sheet

/-- A sheet shows the cells of the pixels of a window. -/
structure Shows (sheet : Sheet α) (bands : Nat) (window : PixelBox) (f : Int → Int → Cell α) :
    Prop where
  bands : sheet.bands = bands
  rows : sheet.rows = window.height.toNat
  cols : sheet.cols = window.width.toNat
  cell : ∀ x y, window.Holds x y →
    sheet.cell (y - window.minY).toNat (x - window.minX).toNat = f x y

theorem shows_blank (bands : Nat) (window : PixelBox) :
    (blank bands window.height.toNat window.width.toNat : Sheet α).Shows bands window
      fun _ _ ↦ Cell.blank :=
  ⟨rfl, rfl, rfl, fun _ _ _ ↦ rfl⟩

/-- A view that shares pixels with a window is laid onto its sheet, pixel by pixel. -/
theorem Shows.lay {draft : Bool} {channel : ChannelType} {sheet : Sheet α} {bands : Nat}
    {window : PixelBox} {f : Int → Int → Cell α} (h : sheet.Shows bands window f) {v : View α}
    (hbands : v.pixels.bands = bands) (hpos : bands ≠ 0)
    (hbox : v.box.IsSized v.pixels.rows v.pixels.cols)
    (hshared : (v.box.crop window).isEmpty = false) :
    ∃ sheet', sheet.lay draft channel window v = .ok sheet' ∧
      sheet'.Shows bands window fun x y ↦ v.layAt draft channel x y (f x y) := by
  obtain ⟨hb, hrows, hcols, hcell⟩ := h
  obtain ⟨hin, hin'⟩ := PixelBox.inside_crop hshared
  have hwindow : window.isEmpty = false := by
    obtain ⟨x, y, hxy⟩ := PixelBox.exists_holds_iff.2 hshared
    exact (PixelBox.mem_crop.1 hxy).2.not_isEmpty
  have hsize := PixelBox.isSized_of_not_isEmpty hwindow
  have hmem (x y : Int) : (v.box.crop window).Holds x y ↔ v.box.Holds x y ∧ window.Holds x y :=
    PixelBox.mem_crop
  unfold Sheet.lay
  simp only [hrows, hcols, hin.slice_eq hbox, hin'.slice_eq hsize]
  generalize v.box.crop window = overlap at hin hin' hmem ⊢
  rw [if_neg (by simpa [Raster.map, Raster.part, hbands] using hpos), if_neg ?shapes]
  case shapes =>
    obtain ⟨hleft, htop, -, -, hwidth, hheight⟩ := hin
    obtain ⟨hleft', htop', -, -, -, -⟩ := hin'
    simp only [Raster.map, Raster.part, Slice.height, Slice.width, hbands, hb]
    omega
  refine ⟨_, rfl, hb, hrows, hcols, ?_⟩
  intro x y hxy
  have hiff : overlap.Holds x y ↔ v.box.Holds x y :=
    (hmem x y).trans ⟨And.left, fun hv ↦ ⟨hv, hxy⟩⟩
  simp only [update, View.layAt, hcell x y hxy, hin'.holds_slice_iff hxy, hiff]
  split
  case isFalse => rfl
  case isTrue hv =>
    obtain ⟨hleft, htop, -, -, -, -⟩ := hin
    obtain ⟨hleft', htop', -, -, -, -⟩ := hin'
    have hv' := hiff.2 hv
    unfold PixelBox.Holds at hv hv' hxy
    have hrow : (overlap.minY - v.box.minY).toNat +
        ((y - window.minY).toNat - (overlap.minY - window.minY).toNat) =
          (y - v.box.minY).toNat := by omega
    have hcol : (overlap.minX - v.box.minX).toNat +
        ((x - window.minX).toNat - (overlap.minX - window.minX).toNat) =
          (x - v.box.minX).toNat := by omega
    simp only [Raster.map, Raster.part, Raster.pixelAt, hrow, hcol]

end Sheet

/-! ## All views -/

namespace Canvas

variable {c : Canvas α} {window : PixelBox} {sheet : Sheet α}

/-- What the views of a canvas leave at a pixel. -/
def cellAt (c : Canvas α) (x y : Int) : Cell α :=
  c.views.foldl (fun cell v ↦ v.layAt c.draft c.channel x y cell) Cell.blank

/-- Where no view is, nothing is left. -/
theorem cellAt_of_not_holds {x y : Int} (h : ∀ v ∈ c.views, ¬ v.box.Holds x y) :
    c.cellAt x y = Cell.blank :=
  foldl_eq_self fun v hv ↦ if_neg (h v hv)

theorem layInto_of_isEmpty {v : View α} (h : (v.box.crop window).isEmpty = true) :
    c.layInto window window sheet v = .ok sheet := if_pos h

theorem layInto_of_not_isEmpty {v : View α} (h : (v.box.crop window).isEmpty = false) :
    c.layInto window window sheet v = sheet.lay c.draft c.channel window v :=
  if_neg (by rw [h]; decide)

/-- A view without any band has no transparency, so it cannot be laid down. -/
theorem layInto_eq_noSuchIndex {v : View α} (hv : v.Fits 0)
    (h : (v.box.crop window).isEmpty = false) :
    c.layInto window window sheet v = .error (.value .noSuchIndex) := by
  rw [layInto_of_not_isEmpty h]
  exact if_pos (by simpa [Raster.map, Raster.part] using hv.bands)

/-- The sheet shows one more view. -/
theorem layInto_eq_ok {v : View α} {f : Int → Int → Cell α} (hv : v.Fits c.bands)
    (hclear : c.bands = 0 → (v.box.crop window).isEmpty = true)
    (h : sheet.Shows c.bands.toNat window f) :
    ∃ sheet', c.layInto window window sheet v = .ok sheet' ∧
      sheet'.Shows c.bands.toNat window fun x y ↦ v.layAt c.draft c.channel x y (f x y) := by
  have hbands := hv.bands
  by_cases hempty : (v.box.crop window).isEmpty = true
  · refine ⟨sheet, layInto_of_isEmpty hempty, h.bands, h.rows, h.cols, ?_⟩
    intro x y hxy
    have hv : ¬ v.box.Holds x y := fun hv ↦ PixelBox.isEmpty_crop_iff.1 hempty x y ⟨hv, hxy⟩
    rw [h.cell x y hxy, View.layAt, if_neg hv]
  · have hpos : c.bands ≠ 0 := fun hz ↦ hempty (hclear hz)
    rw [layInto_of_not_isEmpty (Bool.eq_false_iff.2 hempty)]
    exact h.lay (by omega) (by omega) hv.box (Bool.eq_false_iff.2 hempty)

/-- A canvas without any band cannot be read where there is a view. -/
theorem foldlM_layInto_eq_noSuchIndex {views : List (View α)} (hfits : ∀ v ∈ views, v.Fits 0)
    (h : ∃ v ∈ views, (v.box.crop window).isEmpty = false) :
    views.foldlM (c.layInto window window) sheet = .error (.value .noSuchIndex) := by
  induction views generalizing sheet with
  | nil =>
    obtain ⟨v, hv, -⟩ := h
    cases hv
  | cons u views ih =>
    rw [List.foldlM_cons]
    by_cases hu : (u.box.crop window).isEmpty = true
    · rw [layInto_of_isEmpty hu]
      refine ih (fun v hv ↦ hfits v (List.mem_cons_of_mem u hv)) ?_
      obtain ⟨v, hv, hshared⟩ := h
      rcases List.mem_cons.1 hv with rfl | hv
      · rw [hu] at hshared
        cases hshared
      · exact ⟨v, hv, hshared⟩
    · rw [layInto_eq_noSuchIndex (hfits u List.mem_cons_self) (Bool.eq_false_iff.2 hu)]
      rfl

/-- The sheet shows all views. -/
theorem foldlM_layInto_eq_ok {views : List (View α)} {f : Int → Int → Cell α}
    (hfits : ∀ v ∈ views, v.Fits c.bands)
    (hclear : c.bands = 0 → ∀ v ∈ views, (v.box.crop window).isEmpty = true)
    (h : sheet.Shows c.bands.toNat window f) :
    ∃ sheet', views.foldlM (c.layInto window window) sheet = .ok sheet' ∧
      sheet'.Shows c.bands.toNat window fun x y ↦
        views.foldl (fun cell v ↦ v.layAt c.draft c.channel x y cell) (f x y) := by
  induction views generalizing sheet f with
  | nil => exact ⟨sheet, rfl, h⟩
  | cons u views ih =>
    have hu := List.mem_cons_self (a := u) (l := views)
    obtain ⟨sheet', hlay, h'⟩ :=
      layInto_eq_ok (hfits u hu) (fun hz ↦ hclear hz u hu) h
    rw [List.foldlM_cons, hlay]
    exact ih (fun v hv ↦ hfits v (List.mem_cons_of_mem u hv))
      (fun hz v hv ↦ hclear hz v (List.mem_cons_of_mem u hv)) h'

/-- A raster is what the views of a canvas leave in a window. -/
structure Reads (c : Canvas α) (window : PixelBox) (r : Raster α) : Prop where
  bands : r.bands = c.bands.toNat
  rows : r.rows = window.height.toNat
  cols : r.cols = window.width.toNat
  pixel : ∀ x y b, window.Holds x y →
    r.pixelAt window x y b = (c.cellAt x y).settle c.draft c.channel c.bands.toNat b

theorem Reads.size {r : Raster α} (h : c.Reads window r) (hbands : 0 ≤ c.bands) :
    r.bands = c.bands ∧ r.rows = window.height ∧ r.cols = window.width := by
  obtain ⟨hb, hrows, hcols, -⟩ := h
  rw [PixelBox.height_eq] at hrows ⊢
  rw [PixelBox.width_eq] at hcols ⊢
  omega

/-- What is read at a pixel does not depend on the window. -/
theorem Reads.pixel_eq {other : PixelBox} {r r' : Raster α} {x y : Int} (h : c.Reads window r)
    (h' : c.Reads other r') (hxy : window.Holds x y) (hxy' : other.Holds x y) (b : Nat) :
    r.pixelAt window x y b = r'.pixelAt other x y b := by
  rw [h.pixel x y b hxy, h'.pixel x y b hxy']

theorem read_eq_gather (hextent : c.extent.isSome = true) (hbands : 0 ≤ c.bands) :
    c.read window = c.gather window window := by
  unfold read
  rw [if_neg (by rw [Option.isNone_iff_eq_none, ← Option.not_isSome_iff_eq_none, hextent]; decide),
    if_neg (by omega)]

/-- Where every view has some band for transparency, a reading succeeds, and each pixel is what the
views leave there. -/
theorem read_eq_ok (hc : c.Sound) (hextent : c.extent.isSome = true) (hbands : 0 ≤ c.bands)
    (hclear : c.bands = 0 → ∀ v ∈ c.views, (v.box.crop window).isEmpty = true) :
    ∃ r, c.read window = .ok r ∧ c.Reads window r := by
  obtain ⟨sheet, hsheet, h⟩ :=
    foldlM_layInto_eq_ok hc.fits hclear (Sheet.shows_blank c.bands.toNat window)
  refine ⟨sheet.settle c.draft c.channel, ?_, h.bands, h.rows, h.cols, ?_⟩
  · rw [read_eq_gather hextent hbands, gather, hsheet]
    rfl
  · intro x y b hxy
    change (sheet.cell _ _).settle c.draft c.channel sheet.bands b = _
    rw [h.cell x y hxy, h.bands]
    rfl

/-- A canvas that could be read is prepared, and no view in the window is without bands. -/
theorem clear_of_read (hc : c.Sound) {r : Raster α} (h : c.read window = .ok r) :
    c.extent.isSome = true ∧ 0 ≤ c.bands ∧
      (c.bands = 0 → ∀ v ∈ c.views, (v.box.crop window).isEmpty = true) := by
  have hextent : c.extent.isSome = true := by
    refine Decidable.by_contra fun hnone ↦ ?_
    rw [read, if_pos (by rwa [Option.isNone_iff_eq_none, ← Option.not_isSome_iff_eq_none])] at h
    cases h
  have hbands : 0 ≤ c.bands := by
    refine Int.not_lt.1 fun hneg ↦ ?_
    unfold read at h
    split at h <;> cases h
  refine ⟨hextent, hbands, fun hz v hv ↦ Decidable.by_contra fun hshared ↦ ?_⟩
  have hfits := hc.fits
  rw [hz] at hfits
  rw [read_eq_gather hextent hbands, gather,
    foldlM_layInto_eq_noSuchIndex hfits ⟨v, hv, Bool.eq_false_iff.2 hshared⟩] at h
  cases h

/-- What is read at a pixel is what the views leave there. -/
theorem reads_of_read (hc : c.Sound) {r : Raster α} (h : c.read window = .ok r) :
    c.Reads window r := by
  obtain ⟨hextent, hbands, hclear⟩ := clear_of_read hc h
  obtain ⟨r', hr', hreads⟩ := read_eq_ok hc hextent hbands hclear
  rw [h] at hr'
  cases hr'
  exact hreads

/-- A part of a window can be read whenever the window can be, and shows the same pixels. -/
theorem read_of_subset (hc : c.Sound) {w : PixelBox} {r : Raster α} (h : c.read window = .ok r)
    (hw : ∀ x y, w.Holds x y → window.Holds x y) :
    ∃ r', c.read w = .ok r' ∧ c.Reads w r' := by
  obtain ⟨hextent, hbands, hclear⟩ := clear_of_read hc h
  refine read_eq_ok hc hextent hbands fun hz v hv ↦ PixelBox.isEmpty_crop_iff.2 ?_
  rintro x y ⟨hxy, hxy'⟩
  exact PixelBox.isEmpty_crop_iff.1 (hclear hz v hv) x y ⟨hxy, hw x y hxy'⟩

end Canvas

end

end QuadMosaic
