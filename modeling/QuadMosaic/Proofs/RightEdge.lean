import Mathlib
import QuadMosaic.Proofs.Antimeridian
import QuadMosaic.Proofs.Bookkeeping

/-!
# Columns past the right edge

In a pyramid of square pixels a turn is as wide as the pyramid.  A box that begins in the pyramid and
ends at most a turn past it has up to two columns of each longitude, and the views at its origins
show each of them at its longitude, and each of them once.

The views that show something at a column are found by cutting the two possible ones down: the box
itself at the column `k`, and the box one turn further left, which has the column `k + total` there.
-/

namespace QuadMosaic

variable {α : Type}

namespace PixelBox

/-- A box spans a column, with or without pixels there. -/
def Spans (b : PixelBox) (x : Int) : Prop := b.minX ≤ x ∧ x < b.maxX

instance (b : PixelBox) (x : Int) : Decidable (b.Spans x) := instDecidableAnd

/-- The columns of a box that have the longitude of the column `k`. -/
noncomputable def columnsAt (b : PixelBox) (total k : Int) : Finset Int :=
  {x ∈ Finset.Ico b.minX b.maxX | x ≡ k [ZMOD total]}

theorem mem_columnsAt {b : PixelBox} {total k x : Int} :
    x ∈ b.columnsAt total k ↔ b.Spans x ∧ x ≡ k [ZMOD total] := by
  rw [columnsAt, Finset.mem_filter, Finset.mem_Ico, Spans]

/-- Two turns from the left edge hold two columns of a longitude. -/
theorem eq_or_eq_add_of_modEq {total k x : Int} (hk : 0 ≤ k) (hk' : k < total) (hx : 0 ≤ x)
    (hx' : x < 2 * total) (h : x ≡ k [ZMOD total]) : x = k ∨ x = k + total := by
  obtain ⟨turns, hturns⟩ := h.symm.dvd
  have hlow : -1 < turns := by nlinarith
  have hhigh : turns < 2 := by nlinarith
  obtain rfl | rfl : turns = 0 ∨ turns = 1 := by omega
  · left
    omega
  · right
    omega

/-- The columns of a box at most a turn past the right edge. -/
theorem columnsAt_eq {b : PixelBox} {total k : Int} (hleft : 0 ≤ b.minX)
    (hright : b.maxX ≤ 2 * total) (hk : 0 ≤ k) (hk' : k < total) :
    b.columnsAt total k = ([k + total, k].filter fun x ↦ b.Spans x).toFinset := by
  ext x
  rw [mem_columnsAt, List.mem_toFinset, List.mem_filter, decide_eq_true_eq, List.mem_pair]
  constructor
  · rintro ⟨hspans, hmod⟩
    obtain ⟨hx, hx'⟩ := hspans
    exact ⟨(eq_or_eq_add_of_modEq hk hk' (by omega) (by omega) hmod).symm, hx, hx'⟩
  · rintro ⟨rfl | rfl, hspans⟩
    · exact ⟨hspans, Int.add_modEq_right⟩
    · exact ⟨hspans, Int.ModEq.refl _⟩

end PixelBox

/-- The column of the pixels in `box` that a view shows at a column of the canvas. -/
def View.columnAt (v : View α) (box : PixelBox) (k : Int) : Int := box.minX + (k - v.box.minX)

/-- What the views of one box show at a column of the canvas. -/
structure ShowsOnce (views : List (View α)) (pixels : Raster α) (box : PixelBox) (total k : Int) :
    Prop where
  /-- There are as many views as the box has columns of this longitude. -/
  count : (views.countP fun v ↦ v.box.Spans k) = (box.columnsAt total k).card
  /-- Each view shows one of them. -/
  shown : ∀ v ∈ views, v.box.Spans k → v.columnAt box k ∈ box.columnsAt total k ∧
    ∀ row band, v.pixels.pixelAt v.box k row band = pixels.pixelAt box (v.columnAt box k) row band
  /-- No two views show the same one. -/
  once : ((views.filter fun v ↦ v.box.Spans k).map fun v ↦ v.columnAt box k).Nodup

/-! ## One box -/

section

variable {pixels : Raster α} {box : PixelBox} {total k : Int}

/-- Pixels of a box laid down `d` columns further right. -/
theorem View.spans_laidAt (hsize : box.IsSized pixels.rows pixels.cols) (label : String) (d : Int) :
    (View.laidAt pixels box.minY label (box.minX + d)).box.Spans k ↔ box.Spans (k - d) := by
  obtain ⟨hcols, -⟩ := hsize
  simp only [laidAt, PixelBox.ofSize, PixelBox.Spans]
  omega

theorem View.columnAt_laidAt (label : String) (d : Int) :
    (View.laidAt pixels box.minY label (box.minX + d)).columnAt box k = k - d := by
  simp only [columnAt, laidAt, PixelBox.ofSize]
  omega

theorem View.pixelAt_laidAt (label : String) (x row : Int) (band : Nat) :
    (View.laidAt pixels box.minY label x).pixels.pixelAt
        (View.laidAt pixels box.minY label x).box k row band =
      pixels.pixelAt box ((View.laidAt pixels box.minY label x).columnAt box k) row band := by
  have hcol : box.minX + (k - x) - box.minX = k - x := by omega
  simp only [Raster.pixelAt, columnAt, laidAt, PixelBox.ofSize, hcol]

/-- What a view at an origin shows at a column.  The condition on the origin may leave it out only
where it would show nothing there. -/
theorem columns_of_origin (hsize : box.IsSized pixels.rows pixels.cols) (label : String)
    (wrapped : Bool) {d : Int} {c : Prop} [Decidable c] (hc : box.Spans (k - d) → c) :
    (((if c then [(box.minX + d, wrapped)] else []).map fun o ↦
        View.laidAt pixels box.minY label o.1).filter fun v ↦ v.box.Spans k).map
      (fun v ↦ v.columnAt box k) = [k - d].filter fun x ↦ box.Spans x := by
  by_cases hspans : box.Spans (k - d)
  · have hview := (View.spans_laidAt hsize label d).2 hspans
    rw [if_pos (hc hspans), List.map_singleton,
      List.filter_cons_of_pos (p := fun v : View α ↦ v.box.Spans k) (decide_eq_true hview),
      List.filter_cons_of_pos (p := fun x ↦ box.Spans x) (decide_eq_true hspans)]
    exact congrArg (fun x ↦ [x]) (View.columnAt_laidAt label d)
  · have hnone : [k - d].filter (fun x ↦ box.Spans x) = [] :=
      List.filter_cons_of_neg (by rwa [decide_eq_true_eq])
    rw [hnone]
    split
    · have hview := fun h ↦ hspans ((View.spans_laidAt (k := k) hsize label d).1 h)
      rw [List.map_singleton,
        List.filter_cons_of_neg (p := fun v : View α ↦ v.box.Spans k) (by rwa [decide_eq_true_eq])]
      rfl
    · rfl

/-- The columns that the views at the origins of a box show at a column of the pyramid. -/
theorem columns_of_origins (hsize : box.IsSized pixels.rows pixels.cols) (label : String)
    (hk : 0 ≤ k) (hk' : k < total) :
    (((Composition.origins box total total).map fun o ↦
        View.laidAt pixels box.minY label o.1).filter fun v ↦ v.box.Spans k).map
      (fun v ↦ v.columnAt box k) = [k + total, k].filter fun x ↦ box.Spans x := by
  have hturned := columns_of_origin (k := k) (d := -total) (c := total < box.maxX) hsize label true
    fun h ↦ by
      obtain ⟨-, h⟩ := h
      omega
  have hkept := columns_of_origin (k := k) (d := 0) (c := box.minX < total) hsize label false
    fun h ↦ by
      obtain ⟨h, -⟩ := h
      omega
  rw [sub_neg_eq_add] at hturned
  rw [sub_zero, Int.add_zero] at hkept
  change _ = ([k + total] ++ [k]).filter fun x ↦ box.Spans x
  unfold Composition.origins
  rw [List.map_append, List.filter_append, List.map_append, List.filter_append]
  exact congrArg₂ _ hturned hkept

/-- The views at the origins of a box show each of its columns at its longitude, once. -/
theorem showsOnce_origins (hsize : box.IsSized pixels.rows pixels.cols) (label : String)
    (hleft : 0 ≤ box.minX) (hright : box.maxX ≤ 2 * total) (hk : 0 ≤ k) (hk' : k < total) :
    ShowsOnce ((Composition.origins box total total).map fun o ↦
      View.laidAt pixels box.minY label o.1) pixels box total k := by
  have hcolumns := columns_of_origins hsize label hk hk'
  have hat := PixelBox.columnsAt_eq hleft hright hk hk'
  have hnodup : ([k + total, k].filter fun x ↦ box.Spans x).Nodup := by
    apply List.Nodup.filter
    rw [List.nodup_cons, List.mem_singleton]
    exact ⟨by omega, List.nodup_singleton k⟩
  constructor
  case count =>
    rw [hat, List.toFinset_card_of_nodup hnodup, ← hcolumns, List.length_map,
      List.countP_eq_length_filter]
  case shown =>
    intro v hv hspans
    constructor
    · rw [hat, List.mem_toFinset, ← hcolumns]
      exact List.mem_map_of_mem (List.mem_filter.2 ⟨hv, decide_eq_true hspans⟩)
    · obtain ⟨o, -, rfl⟩ := List.mem_map.1 hv
      exact View.pixelAt_laidAt label o.1
  case once =>
    rw [hcolumns]
    exact hnodup

end

/-! ## All sources -/

namespace Composition

variable [Scalar α] {engine : Engine α} {settings : ComposeSettings α} {output : Georeference α}
  {resolution : Resolution} {columns : Int} {channel : ChannelType} {colorBands : Nat}
  {placed : RasterSource α × Georeference α} {c c' : Composition α} {log log' : List LogRecord}

/-- The views of one source: none when it is left out, else those of its warped pixels at the
origins of its box. -/
def LaidAtOrigins (engine : Engine α) (settings : ComposeSettings α) (output : Georeference α)
    (resolution : Resolution) (columns : Int) (channel : ChannelType) (colorBands : Nat)
    (placed : RasterSource α × Georeference α) (views : List (View α)) : Prop :=
  overlaps engine output resolution columns placed = false ∧ views = [] ∨
    ∃ box wrap pixels, targetBox engine output columns resolution placed.1 placed.2 = .ok box ∧
      box.isEmpty = false ∧
      warped engine settings output channel colorBands placed.1 placed.2 box wrap = .ok pixels ∧
      views = (origins box columns resolution.total).map fun o ↦
        View.laidAt pixels box.minY placed.1.label o.1

theorem laidAtOrigins_of_addSource
    (h : addSource engine settings output resolution columns channel colorBands c placed.1 placed.2
      log = .ok c' log') :
    ∃ p, LaidAtOrigins engine settings output resolution columns channel colorBands placed p.views ∧
      c.Adds p c' := by
  rcases addSource_cases h with ⟨hskips, rfl⟩ | ⟨-, box, wrap, pixels, htarget, hbox, hpixels, hall⟩
  · exact ⟨{ warnings := [noOverlap placed.1.path] }, .inl ⟨hskips, rfl⟩,
      (List.append_nil _).symm, (List.append_nil _).symm, rfl⟩
  · rw [hall] at h
    exact ⟨_, .inr ⟨box, wrap, pixels, htarget, hbox, hpixels, rfl⟩,
      adds_of_lay (Logging.eq_ok_of_ofExcept h).1⟩

theorem laidAtOrigins_of_foldlM {sources : List (RasterSource α × Georeference α)}
    (h : sources.foldlM (m := Logging) (fun c (source, georeference) ↦ addSource engine settings
      output resolution columns channel colorBands c source georeference) c log = .ok c' log') :
    ∃ parts, c'.canvas.views = c.canvas.views ++ parts.flatten ∧
      List.Forall₂ (LaidAtOrigins engine settings output resolution columns channel colorBands)
        sources parts := by
  obtain ⟨parts, hparts, hadds⟩ := parts_of_foldlM (fun _ _ _ _ _ ↦ laidAtOrigins_of_addSource) h
  exact ⟨parts.map Contribution.views, hadds.views, List.forall₂_map_right_iff.2 hparts⟩

/-- What is shown of one source: nothing when it is left out; otherwise, if its box begins in the
pyramid, each column of its warped pixels once. -/
def ShowsColumns (engine : Engine α) (settings : ComposeSettings α) (output : Georeference α)
    (resolution : Resolution) (channel : ChannelType) (colorBands : Nat)
    (placed : RasterSource α × Georeference α) (views : List (View α)) : Prop :=
  overlaps engine output resolution resolution.total placed = false ∧ views = [] ∨
    ∃ box wrap pixels,
      targetBox engine output resolution.total resolution placed.1 placed.2 = .ok box ∧
      box.isEmpty = false ∧
      warped engine settings output channel colorBands placed.1 placed.2 box wrap = .ok pixels ∧
      (0 ≤ box.minX → ∀ k, 0 ≤ k → k < resolution.total →
        ShowsOnce views pixels box resolution.total k)

theorem LaidAtOrigins.showsColumns (hengine : engine.SizesBoxes) {views : List (View α)}
    (h : LaidAtOrigins engine settings output resolution resolution.total channel colorBands placed
      views) :
    ShowsColumns engine settings output resolution channel colorBands placed views := by
  refine h.imp_right ?_
  rintro ⟨box, wrap, pixels, htarget, hbox, hpixels, rfl⟩
  refine ⟨box, wrap, pixels, htarget, hbox, hpixels, ?_⟩
  intro hleft k hk hk'
  have hright := (inside_of_targetBox htarget hbox).right
  exact showsOnce_origins (isSized_of_warped hengine hpixels hbox) placed.1.label hleft
    (by rwa [two_mul]) hk hk'

/-- A composition of square pixels neither loses nor doubles a column at the right edge.

The pixels of a box that begins in the pyramid and ends at most a turn past it are laid down at its
origins without failing; at each column of the pyramid there are as many of these views as the box
has columns of its longitude, and each shows another one of them.  So when a composition goes
through, this holds of the views of every source whose box begins in the pyramid. -/
theorem compose_shows_columns_once {engine : Engine α} (hengine : engine.SizesBoxes)
    (settings : ComposeSettings α) (output : Georeference α) (resolution : Resolution)
    (ha : resolution.aspectRatio = 1) :
    resolution.columns = .ok resolution.total ∧
    (∀ (box : PixelBox) (pixels : Raster α) (c : Composition α) (label : String),
      0 ≤ box.minX → box.minX < box.maxX → box.maxX ≤ 2 * resolution.total →
      box.IsSized pixels.rows pixels.cols → c.Accepts pixels.bands →
      ∃ c' views,
        lay pixels box.minY label (origins box resolution.total resolution.total) c = .ok c' ∧
        c'.canvas.views = c.canvas.views ++ views ∧
        ∀ k, 0 ≤ k → k < resolution.total → ShowsOnce views pixels box resolution.total k) ∧
    ∀ sources log composition log',
      compose engine settings output resolution sources log = .ok composition log' →
      ∃ channel colorBands parts,
        channelOf settings (sources.map (·.1)) = .ok channel ∧
        colorBandsOf settings (sources.map (·.1)) = .ok colorBands ∧
        composition.canvas.views = parts.flatten ∧
        List.Forall₂ (ShowsColumns engine settings output resolution channel colorBands)
          sources parts := by
  have hcolumns : resolution.columns = .ok resolution.total := by
    rw [Resolution.columns_eq_ok (by omega), ha, Int.fdiv_one]
  refine ⟨hcolumns, ?box, ?run⟩
  case box =>
    intro box pixels c label hleft _ hright hsize hc
    obtain ⟨c', hlay⟩ :=
      hc.lay box.minY label (origins box resolution.total resolution.total)
    exact ⟨c', _, hlay, views_of_lay hlay,
      fun k hk hk' ↦ showsOnce_origins hsize label hleft hright hk hk'⟩
  case run =>
    intro sources log composition log' h
    obtain ⟨hrange, channel, colorBands, columns, hchannel, hbands, hcolumns'⟩ :=
      exists_of_compose h
    cases hcolumns'.symm.trans hcolumns
    rw [compose_eq hrange hchannel hbands hcolumns] at h
    obtain ⟨parts, hviews, hlaid⟩ := laidAtOrigins_of_foldlM h
    exact ⟨channel, colorBands, parts, hchannel, hbands, hviews,
      hlaid.imp fun _ _ h ↦ h.showsColumns hengine⟩

/-- A box wider than the pyramid is laid down twice, and one of its longitudes with two columns is
shown by both views. -/
theorem compose_shows_columns_once_past_right_edge :
    ∃ (c' : Composition Float) (views : List (View Float)),
      lay (Raster.zeros 2 10 1500) 0 "" (origins ⟨10, 0, 1510, 10⟩ 1024 1024)
        { canvas := Canvas.new 2 .uint8 } = .ok c' ∧ c'.canvas.views = [] ++ views ∧
      (views.countP fun v ↦ v.box.Spans 100) = 2 ∧ (views.countP fun v ↦ v.box.Spans 5) = 1 := by
  obtain ⟨-, hlaid, -⟩ := compose_shows_columns_once (Engine.sizesBoxes_ofFiles { entries := [] })
    ⟨PixelOptions.unchanged, none, none, none⟩
    ⟨⟨"", [], Datum.wgs84, true⟩, Affine.identity⟩ ⟨1024, 1⟩ rfl
  obtain ⟨c', views, hlay, hviews, hshows⟩ := hlaid ⟨10, 0, 1510, 10⟩ (Raster.zeros 2 10 1500)
    { canvas := Canvas.new 2 .uint8 } "" (by decide) (by decide) (by decide) ⟨rfl, rfl⟩ ⟨rfl, rfl⟩
  refine ⟨c', views, hlay, hviews, ?_, ?_⟩
  · rw [(hshows 100 (by decide) (by decide)).count,
      PixelBox.columnsAt_eq (by decide) (by decide) (by decide) (by decide)]
    decide
  · rw [(hshows 5 (by decide) (by decide)).count,
      PixelBox.columnsAt_eq (by decide) (by decide) (by decide) (by decide)]
    decide

end Composition

end QuadMosaic
