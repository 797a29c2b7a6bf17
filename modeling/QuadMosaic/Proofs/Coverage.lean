import Mathlib
import QuadMosaic.Proofs.QuadTree
import QuadMosaic.Proofs.Reading
import QuadMosaic.Proofs.Region
import QuadMosaic.Proofs.WholeTiles
import QuadMosaic.Run.Mosaic

/-!
# The plan covers the canvas

A run aligns the box of its canvas with the pyramid, prepares the canvas and plans the tiles.  On
the way the box is cropped or grown twice and divided into tiles once.  What is kept is told pixel
by pixel: a pixel that the profile shows and some view holds stays in the box of the data, the tiles
that share pixels with that box are all looked at, and what a tile reads at a pixel is what any
other window reads there.
-/

namespace QuadMosaic

/-! ## The box of the data -/

namespace PyramidBounds

/-- The pixels of a pyramid that a profile shows. -/
def visible (profile : Profile) (r : Resolution) : PixelBox :=
  if profile.isKmlLike then r.visible else ⟨0, 0, r.total, r.total⟩

variable {α : Type} [Scalar α] {project : Projector α} {profile : Profile} {raw : PixelBox}
  {r : Resolution} {output : Georeference α} {size : Int} {b : PyramidBounds α}

/-- The box of the data lies in the pyramid and keeps what the profile shows. -/
theorem data_of_align (h : r.IsProper) (hsize : 0 < size)
    (hb : align project profile raw r output size = .ok b) {x y : Int} :
    (b.data.Holds x y → b.total.Holds x y) ∧
      (raw.Holds x y → (visible profile r).Holds x y → b.data.Holds x y) := by
  unfold align at hb
  unfold visible
  split at hb
  case isTrue hp =>
    obtain ⟨-, htotal, hdata, -⟩ := boxes_of_alignRegion h hb
    rw [htotal, hdata, if_pos hp]
    refine ⟨fun hxy ↦ (PixelBox.mem_crop.1 hxy).2, ?_⟩
    intro hraw hvisible
    exact PixelBox.mem_crop.2 ⟨hraw, squareAround_holds h (PixelBox.mem_crop.2 ⟨hraw, hvisible⟩)⟩
  case isFalse hp =>
    obtain ⟨htotal, hdata, -⟩ := boxes_of_alignGlobe hb
    rw [hdata, htotal, if_neg hp]
    refine ⟨fun hxy ↦ (PixelBox.mem_crop.1 hxy).2, ?_⟩
    intro hraw hvisible
    exact PixelBox.mem_crop.2 ⟨PixelBox.holds_tileAligned hsize hraw, hvisible⟩

end PyramidBounds

/-! ## Transparency -/

namespace Raster

variable {α : Type} [Scalar α] {r : Raster α} {box : PixelBox} {x y : Int}

/-- The last band is positive at a pixel of the box that a raster fills. -/
def IsOpaqueAt (r : Raster α) (box : PixelBox) (x y : Int) : Prop :=
  0 < r.bands ∧ (r.pixelAt box x y (r.bands - 1)).isPositive = true

theorem anyPositive_iff (hbox : box.IsSized r.rows r.cols) :
    r.anyPositive = true ↔ ∃ x y, box.Holds x y ∧ r.IsOpaqueAt box x y := by
  obtain ⟨hcols, hrows⟩ := hbox
  simp only [anyPositive, Bool.and_eq_true, decide_eq_true_eq, List.any_eq_true, List.mem_range]
  constructor
  · rintro ⟨hbands, row, hrow, col, hcol, hpositive⟩
    refine ⟨box.minX + col, box.minY + row, ?_, hbands, ?_⟩
    · unfold PixelBox.Holds
      omega
    · rwa [pixelAt, add_sub_cancel_left, add_sub_cancel_left, Int.toNat_natCast,
        Int.toNat_natCast]
  · rintro ⟨x, y, hxy, hbands, hpositive⟩
    unfold PixelBox.Holds at hxy
    exact ⟨hbands, (y - box.minY).toNat, by omega, (x - box.minX).toNat, by omega, hpositive⟩

end Raster

theorem Sample.isPositive_cast_zero {α : Type} [Scalar α] [LawfulScalar α] (t : ChannelType) :
    ((Sample.whole 0 : Sample α).cast t).isPositive = false := by
  have hzero : Scalar.lt (Scalar.zero : α) (Scalar.ofInt 0) = false :=
    LawfulScalar.lt_zero_ofInt 0
  have heq : Scalar.eq (Scalar.ofInt 0) (Scalar.zero : α) = true := LawfulScalar.eq_ofInt_zero 0
  have hsingle : Scalar.toSingle (Scalar.ofInt 0 : α) = Scalar.ofInt 0 :=
    LawfulScalar.toSingle_zero
  have hhalf : Scalar.toHalf (Scalar.ofInt 0 : α) = Scalar.ofInt 0 := LawfulScalar.toHalf_zero
  cases t <;>
    simp [cast, ChannelType.limits?, ChannelType.cast, ChannelType.clampInt, ChannelType.ofBool,
      isPositive, hzero, heq, hsingle, hhalf]

namespace Canvas

variable {α : Type} [Scalar α] {c : Canvas α} {window : PixelBox} {r : Raster α} {x y : Int}

/-- What a canvas shows at a pixel is not transparent. -/
def IsOpaqueAt (c : Canvas α) (x y : Int) : Prop :=
  0 < c.bands ∧ ((c.cellAt x y).settle c.draft c.channel c.bands.toNat
    (c.bands.toNat - 1)).isPositive = true

/-- Every reading that shows a pixel agrees on whether it is transparent. -/
theorem Reads.isOpaqueAt_iff (h : c.Reads window r) (hxy : window.Holds x y) :
    r.IsOpaqueAt window x y ↔ c.IsOpaqueAt x y := by
  unfold Raster.IsOpaqueAt IsOpaqueAt
  rw [h.pixel x y _ hxy, h.bands, Int.lt_toNat, Int.natCast_zero]

/-- Where no view is, a canvas is transparent. -/
theorem IsOpaqueAt.exists_view [LawfulScalar α] (h : c.IsOpaqueAt x y) :
    ∃ v ∈ c.views, v.box.Holds x y := by
  obtain ⟨hbands, hpositive⟩ := h
  refine Classical.by_contradiction fun hnone ↦ ?_
  have hlast : (Cell.blank : Cell α).settle c.draft c.channel c.bands.toNat (c.bands.toNat - 1) =
      (Sample.whole 0).cast c.channel :=
    if_neg (by
      rw [Bool.and_eq_true, decide_eq_true_eq]
      omega)
  rw [cellAt_of_not_holds fun v hv hxy ↦ hnone ⟨v, hv, hxy⟩, hlast,
    Sample.isPositive_cast_zero] at hpositive
  cases hpositive

end Canvas

/-! ## The tiles of a canvas -/

namespace TileJob

variable {α : Type} [Scalar α] {c : Canvas α} {job : TileJob} {t : Tile}

/-- A tile is listed exactly when its pixels can be read and some of them are not transparent. -/
theorem isOccupied_iff {source : TileSource α} : job.isOccupied source true t = .ok true ↔
    (job.tileBox t).isEmpty = false ∧
      ∃ r, source.read (job.tileBox t) = .ok r ∧ r.anyPositive = true := by
  cases hempty : (job.tileBox t).isEmpty with
  | true =>
    rw [isOccupied_of_isEmpty hempty]
    simp
  | false =>
    rw [isOccupied_of_not_isEmpty hempty]
    cases hread : source.read (job.tileBox t) with
    | error e =>
      constructor
      · intro h
        cases h
      · rintro ⟨-, r, hr, -⟩
        cases hr
    | ok r =>
      change holdsData true r = .ok true ↔ _
      by_cases hbands : r.bands = 0
      · simp [holdsData, Raster.anyPositive, hbands]
      · simp [holdsData, hbands]

/-- A tile of a canvas is listed exactly when some pixel of it that can hold data is not
transparent. -/
theorem isOccupied_canvas_iff (hc : c.Sound) (hextent : c.extent.isSome = true) :
    job.isOccupied (OpenedRun.canvasSource c) true t = .ok true ↔
      ∃ x y, (job.tileBox t).Holds x y ∧ c.IsOpaqueAt x y := by
  have hany {r : Raster α} (hempty : (job.tileBox t).isEmpty = false)
      (hreads : c.Reads (job.tileBox t) r) :
      r.anyPositive = true ↔ ∃ x y, (job.tileBox t).Holds x y ∧ c.IsOpaqueAt x y := by
    have hsize : (job.tileBox t).IsSized r.rows r.cols := by
      rw [hreads.rows, hreads.cols]
      exact PixelBox.isSized_of_not_isEmpty hempty
    rw [Raster.anyPositive_iff hsize]
    constructor
    · rintro ⟨x, y, hxy, hopaque⟩
      exact ⟨x, y, hxy, (hreads.isOpaqueAt_iff hxy).1 hopaque⟩
    · rintro ⟨x, y, hxy, hopaque⟩
      exact ⟨x, y, hxy, (hreads.isOpaqueAt_iff hxy).2 hopaque⟩
  rw [isOccupied_iff]
  constructor
  · rintro ⟨hempty, r, hread, hpositive⟩
    exact (hany hempty (Canvas.reads_of_read hc hread)).1 hpositive
  · rintro ⟨x, y, hxy, hopaque⟩
    have hbands := hopaque.1
    obtain ⟨r, hread, hreads⟩ := Canvas.read_eq_ok hc hextent (by omega)
      fun hz ↦ absurd hz (by omega)
    exact ⟨hxy.not_isEmpty, r, hread, (hany hxy.not_isEmpty hreads).2 ⟨x, y, hxy, hopaque⟩⟩

/-- A canvas with bands tells of every tile whether it is listed. -/
theorem exists_isOccupied_canvas (hc : c.Sound) (hextent : c.extent.isSome = true)
    (hbands : 0 < c.bands) (job : TileJob) (t : Tile) :
    ∃ answer, job.isOccupied (OpenedRun.canvasSource c) true t = .ok answer := by
  obtain ⟨r, hr, hreads⟩ := Canvas.read_eq_ok hc hextent (Int.le_of_lt hbands)
    fun hz ↦ absurd hz (Int.ne_of_gt hbands)
  cases h : job.isOccupied (OpenedRun.canvasSource c) true t with
  | ok answer => exact ⟨answer, rfl⟩
  | error e =>
    rcases isOccupied_eq_error h with herror | ⟨-, -, r', hr', hz⟩
    · cases hr.symm.trans herror
    · obtain rfl : r = r' := Except.ok.inj (hr.symm.trans hr')
      have := hreads.bands
      omega

/-- Every pixel lies in the square of some tile. -/
theorem exists_square_holds (hsize : 0 < job.tileSize) (x y : Int) :
    ∃ t, (job.square t).Holds x y := by
  have hcol := Int.ediv_mul_le (x - job.extent.minX) (ne_of_gt hsize)
  have hcol' := Int.lt_ediv_add_one_mul_self (x - job.extent.minX) hsize
  have hrow := Int.ediv_mul_le (y - job.extent.minY) (ne_of_gt hsize)
  have hrow' := Int.lt_ediv_add_one_mul_self (y - job.extent.minY) hsize
  rw [add_mul, one_mul] at hcol' hrow'
  refine ⟨⟨(x - job.extent.minX) / job.tileSize, (y - job.extent.minY) / job.tileSize⟩, ?_⟩
  simp only [square, PixelBox.ofSize, PixelBox.Holds]
  omega

end TileJob

namespace TilePlan

open OpenedRun (canvasSource)

variable {α : Type} [Scalar α] {c : Canvas α} {job : TileJob} {rule : LevelRule}

/-- A canvas with bands can be planned, if its levels can be counted. -/
theorem exists_ofJob_canvas (hc : c.Sound) (hextent : c.extent.isSome = true) (hbands : 0 < c.bands)
    (hsize : 0 < job.tileSize) {n : Int}
    (hlevels : treeLevels rule job.extent job.tileSize = .ok n) :
    ∃ plan, ofJob rule job (canvasSource c) = .ok plan := by
  rcases TileJob.leaves_cases hsize (canvasSource c) true with
    ⟨t, e, he, -⟩ | ⟨leaves, hok, -⟩
  · obtain ⟨answer, hanswer⟩ := TileJob.exists_isOccupied_canvas hc hextent hbands job t
    cases hanswer.symm.trans he
  · exact ⟨_, ofJob_eq_ok_iff.2 ⟨n, leaves, hlevels, hok, rfl⟩⟩

/-- The plan of a canvas loses no visible pixel and lists no empty tile. -/
theorem plan_covers_visible [LawfulScalar α] (project : Projector α) {profile : Profile}
    {r : Resolution} (output : Georeference α) {tileSize bands : Int} {channel : ChannelType}
    {views : List (View α)} {filled : Canvas α} {extent : PixelBox} {draft : Bool}
    {bounds : PyramidBounds α} (ht : 1 ≤ r.total) (ha : 1 ≤ r.aspectRatio)
    (hcolumns : 1 ≤ Int.fdiv r.total r.aspectRatio) (hsize : 1 ≤ tileSize)
    (hfilled : Canvas.Filled bands channel views filled)
    (hprepare : filled.prepare extent draft = .ok c)
    (hbounds : PyramidBounds.align project profile c.box r output tileSize = .ok bounds)
    (hextent : job.extent = bounds.total) (hcrop : job.crop = bounds.data)
    (htileSize : job.tileSize = tileSize) :
    (1 ≤ bands → (∃ n, treeLevels rule job.extent job.tileSize = .ok n) →
      ∃ plan, ofJob rule job (canvasSource c) = .ok plan) ∧
    ∀ plan, ofJob rule job (canvasSource c) = .ok plan →
      (∀ window pixels, c.read window = .ok pixels → ∀ x y, window.Holds x y →
        (PyramidBounds.visible profile r).Holds x y → pixels.IsOpaqueAt window x y →
        ∃ t ∈ plan.level (plan.levels.length - 1), (job.square t).Holds x y) ∧
      ∀ t ∈ plan.level (plan.levels.length - 1), ∃ x y, (job.square t).Holds x y ∧
        bounds.data.Holds x y ∧ ∀ window, window.Holds x y →
          ∃ pixels, c.read window = .ok pixels ∧ pixels.IsOpaqueAt window x y := by
  obtain ⟨hsound, rfl, rfl, rfl, hprepared, rfl⟩ := hfilled.prepare hprepare
  subst htileSize
  have hdata (x y : Int) :=
    PyramidBounds.data_of_align ⟨ht, ha, hcolumns⟩ hsize hbounds (x := x) (y := y)
  have hregion (x y : Int) : job.region.Holds x y ↔ bounds.data.Holds x y := by
    unfold TileJob.region
    rw [PixelBox.mem_crop, hextent, hcrop]
    exact ⟨And.left, fun h ↦ ⟨h, (hdata x y).1 h⟩⟩
  constructor
  · rintro hbands ⟨n, hn⟩
    exact exists_ofJob_canvas hsound hprepared hbands hsize hn
  intro plan hplan
  have hlisted (t : Tile) : t ∈ plan.level (plan.levels.length - 1) ↔
      ∃ x y, (job.tileBox t).Holds x y ∧ c.IsOpaqueAt x y :=
    (mem_deepest_of_ofJob hsize hplan t).trans (TileJob.isOccupied_canvas_iff hsound hprepared)
  constructor
  · intro window pixels hread x y hxy hvisible hopaque
    have hopaque := ((Canvas.reads_of_read hsound hread).isOpaqueAt_iff hxy).1 hopaque
    obtain ⟨v, hv, hholds⟩ := hopaque.exists_view
    have hbox := hsound.covers v hv x y hholds
    obtain ⟨t, ht⟩ := TileJob.exists_square_holds hsize x y
    have htile := TileJob.mem_tileBox.2 ⟨ht, (hregion x y).2 ((hdata x y).2 hbox hvisible)⟩
    exact ⟨t, (hlisted t).2 ⟨x, y, htile, hopaque⟩, ht⟩
  · intro t hmem
    obtain ⟨x, y, htile, hopaque⟩ := (hlisted t).1 hmem
    obtain ⟨hsquare, hin⟩ := TileJob.mem_tileBox.1 htile
    refine ⟨x, y, hsquare, (hregion x y).1 hin, ?_⟩
    intro window hxy
    have hbands := hopaque.1
    obtain ⟨pixels, hread, hreads⟩ := Canvas.read_eq_ok hsound hprepared (by omega)
      fun hz ↦ absurd hz (by omega)
    exact ⟨pixels, hread, (hreads.isOpaqueAt_iff hxy).2 hopaque⟩

/-- A canvas of nine pixels is planned with a tile that shows the middle one. -/
theorem plan_covers_visible_of_flat_view :
    ∃ (filled c : Canvas Float) (bounds : PyramidBounds Float) (job : TileJob) (plan : TilePlan),
      Canvas.Filled 2 .uint8 [View.flat 2 3 3 5 5 255] filled ∧
      filled.prepare ⟨0, 0, 1024, 1024⟩ true = .ok c ∧
      PyramidBounds.align Crs.transform .kml c.box ⟨1024, 1⟩
        ⟨⟨"", [], Datum.wgs84, true⟩, Affine.identity⟩ 256 = .ok bounds ∧
      job.extent = bounds.total ∧ job.crop = bounds.data ∧
      ofJob .exact job (canvasSource c) = .ok plan ∧
      ∃ t ∈ plan.level (plan.levels.length - 1), (job.square t).Holds 6 6 := by
  have hfilled : Canvas.Filled 2 .uint8 [View.flat 2 3 3 5 5 255]
      (⟨2, .uint8, [View.flat 2 3 3 5 5 255], ⟨5, 5, 8, 8⟩, none, true⟩ : Canvas Float) :=
    .insert ⟨[2, 3, 3], fun _ ↦ .whole 255⟩ 5 5 "" .new rfl
  have hprepare : (⟨2, .uint8, [View.flat 2 3 3 5 5 255], ⟨5, 5, 8, 8⟩, none, true⟩ :
      Canvas Float).prepare ⟨0, 0, 1024, 1024⟩ true = .ok ⟨2, .uint8, [View.flat 2 3 3 5 5 255],
        ⟨5, 5, 8, 8⟩, some ⟨0, 0, 1024, 1024⟩, true⟩ := rfl
  have hproper : (⟨1024, 1⟩ : Resolution).IsProper := ⟨by decide, by decide, by decide⟩
  have hraw : ((⟨5, 5, 8, 8⟩ : PixelBox).crop (Resolution.visible ⟨1024, 1⟩)).isEmpty = false := by
    decide
  obtain ⟨bounds, hbounds⟩ : ∃ bounds : PyramidBounds Float,
      PyramidBounds.align Crs.transform .kml ⟨5, 5, 8, 8⟩ ⟨1024, 1⟩
        ⟨⟨"", [], Datum.wgs84, true⟩, Affine.identity⟩ 256 = .ok bounds := by
    rcases PyramidBounds.alignRegion_cases Float hproper hraw with
      ⟨lonLat, hok⟩ | ⟨-, n, hn, hrange⟩
    · exact ⟨_, hok⟩
    · exact absurd (PyramidBounds.two_pow_le_total hproper hraw hn hrange) (by decide +kernel)
  obtain ⟨job, hextent, hcrop, hsize⟩ : ∃ job : TileJob,
      job.extent = bounds.total ∧ job.crop = bounds.data ∧ job.tileSize = 256 :=
    ⟨⟨.null, .kml, bounds.total, bounds.data, 256, "png", []⟩, rfl, rfl, rfl⟩
  obtain ⟨pixels, hread, hopaque⟩ : ∃ pixels, (⟨2, .uint8, [View.flat 2 3 3 5 5 255],
      ⟨5, 5, 8, 8⟩, some ⟨0, 0, 1024, 1024⟩, true⟩ : Canvas Float).read ⟨0, 0, 8, 8⟩ = .ok pixels ∧
        pixels.IsOpaqueAt ⟨0, 0, 8, 8⟩ 6 6 := ⟨_, rfl, by decide, rfl⟩
  have hlevels := TileJob.treeLevels_exact (by omega : 1 ≤ job.tileSize)
  obtain ⟨hplan, hcovers⟩ := plan_covers_visible (r := ⟨1024, 1⟩) Crs.transform _ (by decide)
    (by decide) (by decide) (by decide) hfilled hprepare hbounds hextent hcrop hsize
  obtain ⟨plan, hok⟩ := hplan (by decide) ⟨_, hlevels⟩
  obtain ⟨t, hmem, hsquare⟩ := (hcovers plan hok).1 ⟨0, 0, 8, 8⟩ pixels hread 6 6 (by decide)
    (by decide) hopaque
  exact ⟨_, _, bounds, job, plan, hfilled, hprepare, hbounds, hextent, hcrop, hok, t, hmem,
    hsquare⟩

end TilePlan

end QuadMosaic
