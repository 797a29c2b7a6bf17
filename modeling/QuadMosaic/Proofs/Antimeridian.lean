import Mathlib
import QuadMosaic.Proofs.Actions
import QuadMosaic.Proofs.Canvas
import QuadMosaic.Proofs.Reading
import QuadMosaic.Compose.Mosaic
import QuadMosaic.Run.Engine

/-!
# Where the antimeridian cuts

A full turn is as many columns as the pyramid has.  The box of a source may pass the edges of the
pyramid by up to `total` columns on either side; what passes the right edge is laid down once more,
`total` columns further left.  So every column of the box that lies in the pyramid is shown there,
and every column from `total` on is shown at the column of the pyramid of the same longitude.  With
square pixels these are all columns right of the left edge.

Nothing is moved to the right: columns left of the left edge, and those between the right edge and
`total` when pixels are wider than high, are not shown by a copy of their own.
-/

namespace QuadMosaic

variable {α : Type}

namespace PixelBox

/-- Some pixel of a box lies in a column. -/
def HasColumn (b : PixelBox) (x : Int) : Prop := ∃ y, b.Holds x y

theorem hasColumn_iff {b : PixelBox} (h : b.isEmpty = false) {x : Int} :
    b.HasColumn x ↔ b.minX ≤ x ∧ x < b.maxX := by
  obtain ⟨-, hrows⟩ := not_isEmpty_iff.1 h
  constructor
  · rintro ⟨y, hxy⟩
    unfold Holds at hxy
    omega
  · intro hx
    exact ⟨b.minY, by unfold Holds; omega⟩

end PixelBox

/-- Some view shows a column of the pixels in a box at a column of the canvas. -/
def ShowsAt (views : List (View α)) (pixels : Raster α) (box : PixelBox) (x y : Int) : Prop :=
  ∃ v ∈ views, (∀ row, v.box.Holds y row ↔ box.Holds x row) ∧
    ∀ row band, v.pixels.pixelAt v.box y row band = pixels.pixelAt box x row band

/-- What the views of one box show of it. -/
structure ShowsTurned (views : List (View α)) (pixels : Raster α) (box : PixelBox)
    (columns total : Int) : Prop where
  /-- A column in the pyramid or from `total` on is shown in the pyramid, at its own longitude. -/
  shown : ∀ x, box.HasColumn x → 0 ≤ x ∧ x < columns ∨ total ≤ x →
    ∃ y, 0 ≤ y ∧ y < columns ∧ y ≡ x [ZMOD columns] ∧ ShowsAt views pixels box x y
  /-- A column of the pyramid is held by a view exactly when it is one of the box itself, or of the
  box moved to the left. -/
  column_iff : ∀ y, 0 ≤ y → y < columns →
    ((∃ v ∈ views, v.box.HasColumn y) ↔ box.HasColumn y ∨ box.HasColumn (y + total))
  /-- With square pixels, what passes the right edge is shown at both edges. -/
  edges : columns = total → box.minX < columns → columns < box.maxX →
    ShowsAt views pixels box (columns - 1) (columns - 1) ∧ ShowsAt views pixels box columns 0

/-! ## One box -/

/-- Pixels laid down with their first column at `x`. -/
def View.laidAt (pixels : Raster α) (minY : Int) (label : String) (x : Int) : View α :=
  ⟨pixels, PixelBox.ofSize x minY pixels.cols pixels.rows, label⟩

section

variable {views : List (View α)} {pixels : Raster α} {box : PixelBox} {columns total : Int}
  {label : String} {d x y : Int}

/-- Pixels of a box laid down `d` columns further right. -/
theorem View.holds_laidAt (hsize : box.IsSized pixels.rows pixels.cols) (row : Int) :
    (View.laidAt pixels box.minY label (box.minX + d)).box.Holds (x + d) row ↔ box.Holds x row := by
  obtain ⟨hcols, hrows⟩ := hsize
  simp only [laidAt, PixelBox.ofSize, PixelBox.Holds]
  omega

theorem showsAt_of_laidAt (hsize : box.IsSized pixels.rows pixels.cols)
    (h : View.laidAt pixels box.minY label (box.minX + d) ∈ views) (hy : x + d = y) :
    ShowsAt views pixels box x y := by
  subst hy
  refine ⟨_, h, View.holds_laidAt hsize, fun row band ↦ ?_⟩
  have hcol : x + d - (box.minX + d) = x - box.minX := by omega
  simp only [Raster.pixelAt, View.laidAt, PixelBox.ofSize, hcol]

theorem Composition.mem_origins {o : Int × Bool} : o ∈ origins box columns total ↔
    columns < box.maxX ∧ o = (box.minX - total, true) ∨
      box.minX < columns ∧ o = (box.minX, false) := by
  unfold origins
  rw [List.mem_append]
  refine or_congr ?_ ?_ <;> split <;> simp_all

/-- The number of columns times the ratio of the sides is `total`, when the ratio divides it. -/
theorem Resolution.total_eq_of_columns {r : Resolution} (h : r.columns = .ok columns)
    (hdvd : r.aspectRatio ∣ r.total) : r.aspectRatio ≠ 0 ∧ r.total = r.aspectRatio * columns := by
  have hne : r.aspectRatio ≠ 0 := by
    intro hz
    rw [Resolution.columns, Coordinate.quotient, if_pos (Coordinate.same_int.2 hz)] at h
    cases h
  rw [Resolution.columns_eq_ok hne] at h
  cases h
  rw [Int.fdiv_eq_ediv_of_dvd hdvd]
  exact ⟨hne, (Int.mul_ediv_cancel' hdvd).symm⟩

/-- The pyramid is no wider than `total` where a box lies in the extent. -/
theorem columns_le_total {aspectRatio : Int} (hcolumns : total = aspectRatio * columns)
    (ha : aspectRatio ≠ 0) (h : -total < columns + total) : columns ≤ total := by
  subst hcolumns
  rcases lt_or_gt_of_ne ha with hneg | hpos
  · nlinarith
  · nlinarith

theorem View.hasColumn_laidAt (hsize : box.IsSized pixels.rows pixels.cols) (label : String) :
    (View.laidAt pixels box.minY label (box.minX + d)).box.HasColumn (x + d) ↔ box.HasColumn x :=
  exists_congr (View.holds_laidAt hsize)

/-- The views of a box in the extent, laid down at its origins. -/
theorem showsTurned_origins (hbox : box.isEmpty = false)
    (hsize : box.IsSized pixels.rows pixels.cols) (hright : box.maxX ≤ columns + total)
    (hle : columns ≤ total) (hdvd : columns ∣ total) (label : String) :
    ShowsTurned ((Composition.origins box columns total).map fun o ↦
      View.laidAt pixels box.minY label o.1) pixels box columns total := by
  -- a view stands where the box is, and one `total` columns further left
  have hkept (h : box.minX < columns) : View.laidAt pixels box.minY label (box.minX + 0) ∈
      (Composition.origins box columns total).map fun o ↦
        View.laidAt pixels box.minY label o.1 :=
    List.mem_map.2 ⟨_, Composition.mem_origins.2 (.inr ⟨h, rfl⟩), by rw [Int.add_zero]⟩
  have hturned (h : columns < box.maxX) : View.laidAt pixels box.minY label (box.minX + -total) ∈
      (Composition.origins box columns total).map fun o ↦
        View.laidAt pixels box.minY label o.1 :=
    List.mem_map.2 ⟨_, Composition.mem_origins.2 (.inl ⟨h, rfl⟩), rfl⟩
  constructor
  case shown =>
    rintro x hx (⟨hleft, hin⟩ | hbeyond) <;> rw [PixelBox.hasColumn_iff hbox] at hx
    · exact ⟨x, hleft, hin, Int.ModEq.refl x,
        showsAt_of_laidAt hsize (hkept (by omega)) (Int.add_zero x)⟩
    · refine ⟨x - total, by omega, by omega, ?_,
        showsAt_of_laidAt hsize (hturned (by omega)) rfl⟩
      rw [Int.modEq_iff_dvd, sub_sub_cancel]
      exact hdvd
  case column_iff =>
    intro y hy hy'
    constructor
    · rintro ⟨v, hv, hcolumn⟩
      obtain ⟨o, ho, rfl⟩ := List.mem_map.1 hv
      rcases Composition.mem_origins.1 ho with ⟨-, rfl⟩ | ⟨-, rfl⟩
      · right
        rw [← View.hasColumn_laidAt hsize label (d := -total), add_neg_cancel_right]
        exact hcolumn
      · left
        rw [← View.hasColumn_laidAt hsize label (d := 0), Int.add_zero, Int.add_zero]
        exact hcolumn
    · rintro (h | h) <;> have hbounds := (PixelBox.hasColumn_iff hbox).1 h
      · have hcolumn := (View.hasColumn_laidAt hsize label (d := 0)).2 h
        rw [Int.add_zero y] at hcolumn
        exact ⟨_, hkept (by omega), hcolumn⟩
      · have hcolumn := (View.hasColumn_laidAt hsize label (d := -total)).2 h
        rw [add_neg_cancel_right] at hcolumn
        exact ⟨_, hturned (by omega), hcolumn⟩
  case edges =>
    rintro rfl hleft hpast
    exact ⟨showsAt_of_laidAt hsize (hkept hleft) (Int.add_zero _),
      showsAt_of_laidAt hsize (hturned hpast) (add_neg_cancel columns)⟩

/-- The same, for the columns of a resolution. -/
theorem showsTurned_origins_of_columns {resolution : Resolution}
    (hdvd : resolution.aspectRatio ∣ resolution.total) (hcolumns : resolution.columns = .ok columns)
    (hbox : box.isEmpty = false) (hsize : box.IsSized pixels.rows pixels.cols)
    (hleft : -resolution.total ≤ box.minX) (hright : box.maxX ≤ columns + resolution.total)
    (label : String) :
    ShowsTurned ((Composition.origins box columns resolution.total).map fun o ↦
      View.laidAt pixels box.minY label o.1) pixels box columns resolution.total := by
  obtain ⟨hne, htotal⟩ := Resolution.total_eq_of_columns hcolumns hdvd
  obtain ⟨hcols, -⟩ := PixelBox.not_isEmpty_iff.1 hbox
  exact showsTurned_origins hbox hsize hright (columns_le_total htotal hne (by omega))
    (htotal ▸ Dvd.intro_left _ rfl) label

end

/-! ## A run over all sources -/

namespace Engine

/-- An engine that fills the box that it warps pixels into. -/
structure SizesBoxes (engine : Engine α) : Prop where
  rows : ∀ pixels source output box wrap,
    (engine.warp pixels source output box wrap).rows = box.height.toNat
  cols : ∀ pixels source output box wrap,
    (engine.warp pixels source output box wrap).cols = box.width.toNat

/-- The engine on files does so. -/
theorem sizesBoxes_ofFiles (files : Files) : (ofFiles files).SizesBoxes := by
  constructor <;> intro pixels source output box wrap <;> simp only [ofFiles, Warp.warp] <;>
    cases wrap <;> split <;> rfl

end Engine

namespace Composition

/-- Views can be added to a composition, of pixels with the bands of its canvas. -/
structure Accepts (c : Composition α) (bands : Int) : Prop where
  extent : c.canvas.extent = none
  bands : c.canvas.bands = bands

section

variable {c c' : Composition α} {pixels : Raster α}

theorem of_insert {canvas canvas' : Canvas α} {x minY : Int} {label : String} {view : View α}
    (h : canvas.insert pixels.toBlock x minY label = .ok (canvas', view)) :
    view = View.laidAt pixels minY label x ∧ canvas'.views = canvas.views ++ [view] := by
  obtain ⟨accepted, haccept, h⟩ := exists_of_bind_eq_ok h
  obtain ⟨-, htaken, -⟩ := Canvas.accept_eq_ok_iff.1 haccept
  obtain rfl : pixels = accepted := Option.some.inj htaken
  cases h
  exact ⟨rfl, rfl⟩

/-- Pixels that were laid down left a view at every origin. -/
theorem views_of_lay {minY : Int} {label : String} {origins : List (Int × Bool)}
    (h : lay pixels minY label origins c = .ok c') :
    c'.canvas.views =
      c.canvas.views ++ origins.map fun o ↦ View.laidAt pixels minY label o.1 := by
  induction origins generalizing c with
  | nil =>
    cases h
    exact (List.append_nil _).symm
  | cons o origins ih =>
    obtain ⟨x, wrapped⟩ := o
    obtain ⟨⟨canvas, view⟩, hinsert, h⟩ := exists_of_bind_eq_ok h
    obtain ⟨rfl, hviews⟩ := of_insert hinsert
    rw [ih h, hviews, List.append_assoc]
    rfl

/-- Pixels with the bands of a canvas that is not prepared can be inserted, and more after them. -/
theorem Accepts.insert (h : c.Accepts pixels.bands) (x y : Int) (label : String) :
    ∃ canvas view, c.canvas.insert pixels.toBlock x y label = .ok (canvas, view) ∧
      canvas.extent = none ∧ canvas.bands = pixels.bands := by
  have haccept : c.canvas.accept pixels.toBlock = .ok pixels :=
    Canvas.accept_eq_ok_iff.2 ⟨h.extent, rfl, h.bands.symm⟩
  exact ⟨_, _, bind_of_eq_ok haccept, h.extent, h.bands⟩

/-- So they are laid down at every origin. -/
theorem Accepts.lay (h : c.Accepts pixels.bands) (minY : Int) (label : String)
    (origins : List (Int × Bool)) : ∃ c', lay pixels minY label origins c = .ok c' := by
  induction origins generalizing c with
  | nil => exact ⟨c, rfl⟩
  | cons o origins ih =>
    obtain ⟨x, wrapped⟩ := o
    obtain ⟨canvas, view, hinsert, hextent, hbands⟩ := h.insert x minY label
    have hnext : Accepts { c with
        canvas, insertions := c.insertions ++ [⟨label, view.box, wrapped⟩] } pixels.bands :=
      ⟨hextent, hbands⟩
    rw [Composition.lay, bind_of_eq_ok hinsert]
    exact ih hnext

end

variable [Scalar α] {engine : Engine α} {settings : ComposeSettings α} {output : Georeference α}
  {resolution : Resolution} {columns : Int} {channel : ChannelType} {colorBands : Nat}
  {log log' : List LogRecord}

/-- What is shown of one source: nothing when its box is empty, else its warped pixels. -/
def Shows (engine : Engine α) (settings : ComposeSettings α) (output : Georeference α)
    (resolution : Resolution) (columns : Int) (channel : ChannelType) (colorBands : Nat)
    (placed : RasterSource α × Georeference α) (views : List (View α)) : Prop :=
  ∃ box, targetBox engine output columns resolution placed.1 placed.2 = .ok box ∧
    (box.isEmpty = true ∧ views = [] ∨
      box.isEmpty = false ∧ ∃ wrap pixels,
        warped engine settings output channel colorBands placed.1 placed.2 box wrap = .ok pixels ∧
          ShowsTurned views pixels box columns resolution.total)

/-- The box of a source lies in the extent. -/
theorem bounds_of_targetBox {source : RasterSource α} {georeference : Georeference α}
    {box : PixelBox} (h : targetBox engine output columns resolution source georeference = .ok box)
    (hbox : box.isEmpty = false) :
    -resolution.total ≤ box.minX ∧ box.maxX ≤ columns + resolution.total := by
  obtain ⟨around, -, h⟩ := exists_of_bind_eq_ok h
  cases h
  obtain ⟨-, hin⟩ := PixelBox.inside_crop hbox
  exact ⟨hin.left, hin.right⟩

/-- Warped pixels fill their box. -/
theorem isSized_of_warped (hengine : engine.SizesBoxes) {source : RasterSource α}
    {georeference : Georeference α} {box : PixelBox} {wrap : Bool} {pixels : Raster α}
    (h : warped engine settings output channel colorBands source georeference box wrap =
      .ok pixels) (hbox : box.isEmpty = false) : box.IsSized pixels.rows pixels.cols := by
  obtain ⟨raw, -, h⟩ := exists_of_bind_eq_ok h
  obtain ⟨bands, -, h⟩ := exists_of_bind_eq_ok h
  obtain ⟨adjusted, -, h⟩ := exists_of_bind_eq_ok h
  cases h
  have hrows := hengine.rows adjusted.force georeference output box wrap
  have hcols := hengine.cols adjusted.force georeference output box wrap
  simp only [Raster.map, hrows, hcols]
  exact PixelBox.isSized_of_not_isEmpty hbox

/-- One more source shows what it should. -/
theorem shows_of_addSource (hengine : engine.SizesBoxes)
    (hdvd : resolution.aspectRatio ∣ resolution.total) (hcolumns : resolution.columns = .ok columns)
    {c c' : Composition α} {source : RasterSource α} {georeference : Georeference α}
    (h : addSource engine settings output resolution columns channel colorBands c source
      georeference log = .ok c' log') :
    ∃ views, c'.canvas.views = c.canvas.views ++ views ∧
      Shows engine settings output resolution columns channel colorBands (source, georeference)
        views := by
  obtain ⟨wrap, log₁, -, h⟩ := Action.exists_of_bind_eq_ok h
  obtain ⟨box, log₂, htarget, h⟩ := Action.exists_of_bind_eq_ok h
  obtain ⟨hbox, -⟩ := Logging.eq_ok_of_ofExcept htarget
  split at h
  case isTrue hempty =>
    obtain ⟨_, log₃, -, h⟩ := Action.exists_of_bind_eq_ok h
    cases h
    exact ⟨[], (List.append_nil _).symm, box, hbox, .inl ⟨hempty, rfl⟩⟩
  case isFalse hempty =>
    have hempty := Bool.eq_false_iff.2 hempty
    obtain ⟨pixels, log₃, hpixels, h⟩ := Action.exists_of_bind_eq_ok h
    obtain ⟨hwarped, -⟩ := Logging.eq_ok_of_ofExcept hpixels
    obtain ⟨hlay, -⟩ := Logging.eq_ok_of_ofExcept h
    refine ⟨_, views_of_lay hlay, box, hbox, .inr ⟨hempty, wrap, pixels, hwarped, ?_⟩⟩
    obtain ⟨hleft, hright⟩ := bounds_of_targetBox hbox hempty
    exact showsTurned_origins_of_columns hdvd hcolumns hempty
      (isSized_of_warped hengine hwarped hempty) hleft hright source.label

/-- The sources in turn. -/
theorem shows_of_foldlM (hengine : engine.SizesBoxes)
    (hdvd : resolution.aspectRatio ∣ resolution.total) (hcolumns : resolution.columns = .ok columns)
    {sources : List (RasterSource α × Georeference α)} {c c' : Composition α}
    (h : sources.foldlM (m := Logging) (fun c (source, georeference) ↦ addSource engine settings
      output resolution columns channel colorBands c source georeference) c log = .ok c' log') :
    ∃ parts, c'.canvas.views = c.canvas.views ++ parts.flatten ∧
      List.Forall₂ (Shows engine settings output resolution columns channel colorBands)
        sources parts := by
  induction sources generalizing c log with
  | nil =>
    cases h
    exact ⟨[], (List.append_nil _).symm, .nil⟩
  | cons placed sources ih =>
    obtain ⟨next, mid, hadd, h⟩ := Action.exists_of_bind_eq_ok h
    obtain ⟨views, hviews, hshows⟩ := shows_of_addSource hengine hdvd hcolumns hadd
    obtain ⟨parts, hparts, hall⟩ := ih h
    refine ⟨views :: parts, ?_, .cons hshows hall⟩
    rw [hparts, hviews, List.flatten_cons, List.append_assoc]

/-- A composition shows all of every source that the pyramid and a turn to its right hold.

Pixels of any box in the extent are laid down without failing, and the views show what they should.
So when a composition goes through, its views are made up of those of its sources, in their order;
a source whose box is empty has none, and any other has the views that show its warped pixels. -/
theorem compose_shows_turned {engine : Engine α} (hengine : engine.SizesBoxes)
    (settings : ComposeSettings α) (output : Georeference α) (resolution : Resolution)
    {columns : Int} (hdvd : resolution.aspectRatio ∣ resolution.total)
    (hcolumns : resolution.columns = .ok columns) :
    (∀ (box : PixelBox) (pixels : Raster α) (c : Composition α) (label : String),
      box.isEmpty = false →
      (∀ x y, box.Holds x y → (extent columns resolution.rows resolution.total).Holds x y) →
      box.IsSized pixels.rows pixels.cols → c.Accepts pixels.bands →
      ∃ c' views, lay pixels box.minY label (origins box columns resolution.total) c = .ok c' ∧
        c'.canvas.views = c.canvas.views ++ views ∧
        ShowsTurned views pixels box columns resolution.total) ∧
    ∀ sources log composition log',
      compose engine settings output resolution sources log = .ok composition log' →
      ∃ channel colorBands parts,
        channelOf settings (sources.map (·.1)) = .ok channel ∧
        colorBandsOf settings (sources.map (·.1)) = .ok colorBands ∧
        composition.canvas.views = parts.flatten ∧
        List.Forall₂ (Shows engine settings output resolution columns channel colorBands)
          sources parts := by
  constructor
  · intro box pixels c label hbox hin hsize hc
    obtain ⟨c', hlay⟩ := hc.lay box.minY label (origins box columns resolution.total)
    refine ⟨c', _, hlay, views_of_lay hlay, ?_⟩
    obtain ⟨hcols, hrows⟩ := PixelBox.not_isEmpty_iff.1 hbox
    have hleast := hin box.minX box.minY (by unfold PixelBox.Holds; omega)
    have hgreatest := hin (box.maxX - 1) (box.maxY - 1) (by unfold PixelBox.Holds; omega)
    simp only [PixelBox.Holds, extent] at hleast hgreatest
    exact showsTurned_origins_of_columns hdvd hcolumns hbox hsize hleast.1 (by omega) label
  · intro sources log composition log' h
    -- what follows the warning about a rescale, with whatever warnings there are
    have hrest (warnings : List String) (mid : List LogRecord)
        (h : (do
          let channel ← Logging.ofExcept (channelOf settings (sources.map (·.1)))
          let colorBands ← Logging.ofExcept (colorBandsOf settings (sources.map (·.1)))
          let columns ← Logging.ofExcept resolution.columns
          sources.foldlM (fun c (source, georeference) ↦
            addSource engine settings output resolution columns channel colorBands c source
              georeference)
            ({ canvas := Canvas.new (colorBands + 1) channel, warnings } : Composition α) :
            Logging (Composition α)) mid = .ok composition log') :
        ∃ channel colorBands parts,
          channelOf settings (sources.map (·.1)) = .ok channel ∧
          colorBandsOf settings (sources.map (·.1)) = .ok colorBands ∧
          composition.canvas.views = parts.flatten ∧
          List.Forall₂ (Shows engine settings output resolution columns channel colorBands)
            sources parts := by
      obtain ⟨channel, log₁, hchannel, h⟩ := Action.exists_of_bind_eq_ok h
      obtain ⟨colorBands, log₂, hbands, h⟩ := Action.exists_of_bind_eq_ok h
      obtain ⟨columns', log₃, hcolumns', h⟩ := Action.exists_of_bind_eq_ok h
      cases (Logging.eq_ok_of_ofExcept hcolumns').1.symm.trans hcolumns
      obtain ⟨parts, hviews, hall⟩ := shows_of_foldlM hengine hdvd hcolumns h
      exact ⟨channel, colorBands, parts, (Logging.eq_ok_of_ofExcept hchannel).1,
        (Logging.eq_ok_of_ofExcept hbands).1, hviews, hall⟩
    unfold compose at h
    split at h
    · cases h
    · dsimp only at h
      split at h
      · obtain ⟨_, mid, -, h⟩ := Action.exists_of_bind_eq_ok h
        exact hrest _ mid h
      · exact hrest _ log h

/-- A box that passes the right edge of a pyramid of square pixels is shown at both edges. -/
theorem compose_shows_turned_past_right_edge :
    ∃ (c' : Composition Float) (views : List (View Float)),
      lay (Raster.zeros 2 10 100) 0 "" (origins ⟨1000, 0, 1100, 10⟩ 1024 1024)
        { canvas := Canvas.new 2 .uint8 } = .ok c' ∧ c'.canvas.views = [] ++ views ∧
      ShowsAt views (Raster.zeros 2 10 100) ⟨1000, 0, 1100, 10⟩ 1023 1023 ∧
      ShowsAt views (Raster.zeros 2 10 100) ⟨1000, 0, 1100, 10⟩ 1024 0 := by
  obtain ⟨hlaid, -⟩ := compose_shows_turned (Engine.sizesBoxes_ofFiles { entries := [] })
    ⟨PixelOptions.unchanged, none, none, none⟩
    ⟨⟨"", [], Datum.wgs84, true⟩, Affine.identity⟩ ⟨1024, 1⟩ (by decide)
    (show Resolution.columns ⟨1024, 1⟩ = .ok 1024 from rfl)
  obtain ⟨c', views, hlay, hviews, hshows⟩ := hlaid ⟨1000, 0, 1100, 10⟩ (Raster.zeros 2 10 100)
    { canvas := Canvas.new 2 .uint8 } "" (by decide)
    (fun x y h ↦ by
      simp only [PixelBox.Holds, extent, Resolution.rows] at h ⊢
      omega) ⟨rfl, rfl⟩ ⟨rfl, rfl⟩
  exact ⟨c', views, hlay, hviews, hshows.edges rfl (by decide) (by decide)⟩

/-- A column left of the left edge, and one right of the right edge of a pyramid whose pixels are
wider than high, that are shown nowhere in the pyramid. -/
theorem lay_loses_columns :
    (∃ c' : Composition Float,
      lay (Raster.zeros 2 10 15) 0 "" (origins ⟨-10, 0, 5, 10⟩ 1024 1024)
        { canvas := Canvas.new 2 .uint8 } = .ok c' ∧
      (⟨-10, 0, 5, 10⟩ : PixelBox).HasColumn (-10) ∧
      ∀ v ∈ c'.canvas.views, ∀ y, 0 ≤ y → y < 1024 → y ≡ -10 [ZMOD 1024] →
        ¬ v.box.HasColumn y) ∧
    ∃ c' : Composition Float,
      lay (Raster.zeros 2 10 100) 0 "" (origins ⟨1100, 0, 1200, 10⟩ 1024 2048)
        { canvas := Canvas.new 2 .uint8 } = .ok c' ∧
      (⟨1100, 0, 1200, 10⟩ : PixelBox).HasColumn 1100 ∧
      ∀ v ∈ c'.canvas.views, ∀ y, 0 ≤ y → y < 1024 → y ≡ 1100 [ZMOD 1024] →
        ¬ v.box.HasColumn y := by
  constructor
  · refine ⟨_, rfl, ⟨0, by decide⟩, ?_⟩
    rintro v hv y hy hy' hmod ⟨row, hrow⟩
    obtain rfl : v = View.laidAt (Raster.zeros 2 10 15) 0 "" (-10) := List.mem_singleton.1 hv
    obtain ⟨-, hright, -⟩ := hrow
    change y < -10 + 15 at hright
    unfold Int.ModEq at hmod
    omega
  · refine ⟨_, rfl, ⟨0, by decide⟩, ?_⟩
    rintro v hv y hy hy' hmod ⟨row, hrow⟩
    obtain rfl : v = View.laidAt (Raster.zeros 2 10 100) 0 "" (1100 - 2048) :=
      List.mem_singleton.1 hv
    obtain ⟨-, hright, -⟩ := hrow
    change y < 1100 - 2048 + 100 at hright
    omega

end Composition

end QuadMosaic
