import Mathlib
import QuadMosaic.Pixel.Adjust
import QuadMosaic.Proofs.Comparison
import QuadMosaic.Proofs.Opacity

/-!
# Transparency is told by raw values

Pixels without data are found before any value is scaled, normalised or brought to other bands, and
they are blanked after that.  So no change of values turns data into missing data or makes missing
data visible: the transparency is the same for all changes.

Full intensity in a channel of 64 bits is no double; the double next above it wraps round to the
least value, which is what pixels with data get there from images without transparency.
-/

namespace QuadMosaic

variable {α : Type} [Scalar α]

/-- All samples are finite. -/
def Raster.IsFinite (pixels : Raster α) : Prop :=
  ∀ b y x, b < pixels.bands → y < pixels.rows → x < pixels.cols →
    Scalar.isFinite (pixels.sample b y x).toScalar = true

/-! ## Samples of a channel of integers -/

namespace ChannelType

variable {t : ChannelType} {lo hi : Int}

theorem cast_mem (ht : t.limits? = some (lo, hi)) (x : α) :
    ∃ n, t.cast x = .whole n ∧ lo ≤ n ∧ n ≤ hi := by
  obtain ⟨hlo, hhi⟩ := zero_mem_limits ht
  refine ⟨_, ?_, settle_mem (hlo.trans hhi) hlo hhi (Scalar.nearest x)⟩
  rw [cast, ht]

/-- Full intensity, which the double nearest to the greatest value of 64 bits misses. -/
theorem cast_full (ht : t.limits? = some (lo, hi)) :
    t.cast (t.full : Float) = .whole (if t = .int64 ∨ t = .uint64 then lo else hi) := by
  cases t <;> cases ht <;> decide +kernel

end ChannelType

/-! ## Pixels without data -/

namespace RasterSource

variable {s : RasterSource α} {configured : Option α} {pixels : Raster α} {y x : Nat}

/-- All colour channels of a pixel equal the value that marks missing data.  Samples are compared as
the numbers nearest to them. -/
def IsBlank (s : RasterSource α) (configured : Option α) (pixels : Raster α) (y x : Nat) : Prop :=
  ∃ v, s.Marks configured v ∧
    ∀ b < (pixels.take s.format.colorBands).bands,
      Scalar.eq (pixels.sample b y x).toScalar v = true

/-- The pixels that are left out are the blank ones. -/
theorem isMasked_iff [OrderedScalar α] (hfinite : pixels.IsFinite) (hy : y < pixels.rows)
    (hx : x < pixels.cols) :
    (pixels.take s.format.colorBands).isMasked (s.effectiveNodata configured) y x = true ↔
      s.IsBlank configured pixels y x := by
  unfold IsBlank
  simp only [← effectiveNodata_eq_some_iff]
  cases s.effectiveNodata configured with
  | none => simp [Raster.isMasked]
  | some v =>
    have hnumbers (b : Nat) (hb : b < (pixels.take s.format.colorBands).bands) :
        ¬ Scalar.isNaN (pixels.sample b y x).toScalar = true :=
      OrderedScalar.isNaN_of_isFinite (hfinite b y x (hb.trans_le (Nat.min_le_right _ _)) hy hx)
    rw [Raster.isMasked_iff hnumbers]
    simp only [Option.some.injEq, exists_eq_left', Raster.take]

/-- Adjusted pixels, but for what becomes of the colours: a blank pixel is zero in every band, any
other one has the transparency of the image, and all samples keep to the limits of the channel
type. -/
structure IsAdjusted (s : RasterSource α) (configured : Option α) (pixels : Raster α)
    (channel : ChannelType) (lo hi : Int) (colorBands : Nat) (out : Raster α) : Prop where
  bands_eq : out.bands = colorBands + 1
  rows_eq : out.rows = pixels.rows
  cols_eq : out.cols = pixels.cols
  blank {y x : Nat} : y < pixels.rows → x < pixels.cols → s.IsBlank configured pixels y x →
    ∀ b, out.sample b y x = .whole 0
  alpha {y x : Nat} : y < pixels.rows → x < pixels.cols → ¬ s.IsBlank configured pixels y x →
    out.sample colorBands y x = channel.cast (s.opacity pixels channel y x)
  mem (b y x : Nat) : ∃ n, out.sample b y x = .whole n ∧ lo ≤ n ∧ n ≤ hi

section

variable {channel : ChannelType} {lo hi : Int} {colorBands : Nat} {out out' : Raster α}

theorem exists_isAdjusted [OrderedScalar α] [SignedScalar α] {options : PixelOptions α}
    {range : Option (PixelRange α)} (hchannel : channel.limits? = some (lo, hi))
    (hfinite : pixels.IsFinite) (haccepted : options.normalize = true → range ≠ none)
    (colorBands : Nat) :
    ∃ out, s.adjust pixels options channel colorBands range = .ok out ∧
      s.IsAdjusted options.nodata pixels channel lo hi colorBands out := by
  have hrange : ¬ (options.normalize && range.isNone) = true := by
    rw [Bool.and_eq_true, Option.isNone_iff_eq_none]
    exact fun h ↦ haccepted h.1 h.2
  refine ⟨_, if_neg hrange, rfl, rfl, rfl, ?blank, ?alpha, ?mem⟩
  case blank =>
    intro y x hy hx hblank b
    have hmasked := (isMasked_iff hfinite hy hx).2 hblank
    simp only [hmasked, if_true]
    exact ChannelType.cast_zero hchannel
  case alpha =>
    intro y x hy hx hblank
    have hmasked := mt (isMasked_iff hfinite hy hx).1 hblank
    simp only [hmasked, if_false, Nat.lt_irrefl, Bool.false_eq_true]
  case mem => exact fun b y x ↦ ChannelType.cast_mem hchannel _

/-- The transparency is told by the source and the value that marks missing data. -/
theorem IsAdjusted.alpha_eq (h : s.IsAdjusted configured pixels channel lo hi colorBands out)
    (h' : s.IsAdjusted configured pixels channel lo hi colorBands out') (hy : y < pixels.rows)
    (hx : x < pixels.cols) : out.sample colorBands y x = out'.sample colorBands y x := by
  by_cases hblank : s.IsBlank configured pixels y x
  · rw [h.blank hy hx hblank, h'.blank hy hx hblank]
  · rw [h.alpha hy hx hblank, h'.alpha hy hx hblank]

end

/-- A pixel with data of an image without transparency is opaque, as far as its channel type can
hold full intensity. -/
theorem IsAdjusted.alpha_full {s : RasterSource Float} {configured : Option Float}
    {pixels out : Raster Float} {channel : ChannelType} {lo hi : Int} {colorBands y x : Nat}
    (h : s.IsAdjusted configured pixels channel lo hi colorBands out)
    (hchannel : channel.limits? = some (lo, hi)) (hy : y < pixels.rows) (hx : x < pixels.cols)
    (hblank : ¬ s.IsBlank configured pixels y x) (hformat : s.format.hasAlpha = false) :
    out.sample colorBands y x =
      .whole (if channel = .int64 ∨ channel = .uint64 then lo else hi) := by
  rw [h.alpha hy hx hblank, opacity, hformat]
  exact ChannelType.cast_full hchannel

/-- Transparency is told by raw values alone.

Whatever two sets of options with the same value for missing data make of the colours of finite
pixels, in any channel type of integers and any number of colour bands: the transparency is the
same, blank pixels are zero in every band, the other pixels of an image without transparency have
full intensity there, but for channels of 64 bits, where they have the least value, and every sample
is within the limits of the channel type. -/
theorem transparency_of_raw_values (s : RasterSource Float) (pixels : Raster Float)
    (hfinite : pixels.IsFinite) {channel : ChannelType} {lo hi : Int}
    (hchannel : channel.limits? = some (lo, hi)) (colorBands : Nat)
    (options options' : PixelOptions Float) (hnodata : options.nodata = options'.nodata)
    (range range' : Option (PixelRange Float))
    (haccepted : options.normalize = true → range ≠ none)
    (haccepted' : options'.normalize = true → range' ≠ none) :
    ∃ out out', s.adjust pixels options channel colorBands range = .ok out ∧
      s.adjust pixels options' channel colorBands range' = .ok out' ∧
      ((out.bands = colorBands + 1 ∧ out.rows = pixels.rows ∧ out.cols = pixels.cols) ∧
        out'.bands = colorBands + 1 ∧ out'.rows = pixels.rows ∧ out'.cols = pixels.cols) ∧
      (∀ y x, y < pixels.rows → x < pixels.cols →
        out.sample colorBands y x = out'.sample colorBands y x ∧
        (s.IsBlank options.nodata pixels y x →
          ∀ b, out.sample b y x = .whole 0 ∧ out'.sample b y x = .whole 0) ∧
        (¬ s.IsBlank options.nodata pixels y x → s.format.hasAlpha = false →
          out.sample colorBands y x =
            .whole (if channel = .int64 ∨ channel = .uint64 then lo else hi))) ∧
      ∀ b y x, (∃ n, out.sample b y x = .whole n ∧ lo ≤ n ∧ n ≤ hi) ∧
        ∃ n, out'.sample b y x = .whole n ∧ lo ≤ n ∧ n ≤ hi := by
  obtain ⟨out, hout, h⟩ := exists_isAdjusted (s := s) hchannel hfinite haccepted colorBands
  obtain ⟨out', hout', h'⟩ := exists_isAdjusted (s := s) hchannel hfinite haccepted' colorBands
  rw [← hnodata] at h'
  refine ⟨out, out', hout, hout', ⟨⟨h.bands_eq, h.rows_eq, h.cols_eq⟩,
    h'.bands_eq, h'.rows_eq, h'.cols_eq⟩, fun y x hy hx ↦ ⟨h.alpha_eq h' hy hx, ?_, ?_⟩,
    fun b y x ↦ ⟨h.mem b y x, h'.mem b y x⟩⟩
  · exact fun hblank b ↦ ⟨h.blank hy hx hblank b, h'.blank hy hx hblank b⟩
  · exact h.alpha_full hchannel hy hx

/-- A row of gray pixels of which zero marks missing data. -/
def markedRow (cols : Nat) : RasterSource Float where
  path := Path.ofString "row.tif"
  format := .gray
  channel := .uint8
  cols := cols
  rows := 1
  bandCount := 1
  nodata := some Scalar.zero
  crs := none
  transform := Affine.identity

/-- Numbers from zero on, in a row. -/
def countedPixels (cols : Nat) : Raster Float := ⟨1, 1, cols, fun _ _ x ↦ .whole x⟩

theorem isFinite_countedPixels : (countedPixels 2).IsFinite := by
  have hfinite : ∀ n < 2, Scalar.isFinite (Sample.whole (n : Nat) : Sample Float).toScalar = true :=
    by decide +kernel
  exact fun b y x _ _ hx ↦ hfinite x hx

theorem not_isBlank_markedRow : ¬ (markedRow 2).IsBlank none (countedPixels 2) 0 1 := by
  rintro ⟨v, hv | ⟨-, hv⟩, hequal⟩ <;> cases hv
  exact absurd (hequal 0 (by decide)) (by decide +kernel)

/-- The pixels 0 and 1, as they are and moved by one: the first one is blank both times. -/
theorem transparency_of_raw_values_two_pixels :
    ∃ out out',
      (markedRow 2).adjust (countedPixels 2) .unchanged .uint8 1 none = .ok out ∧
      (markedRow 2).adjust (countedPixels 2) ⟨none, Scalar.one, Scalar.one, false⟩ .uint8 1 none =
        .ok out' ∧
      (∀ b, out.sample b 0 0 = .whole 0 ∧ out'.sample b 0 0 = .whole 0) ∧
      out.sample 1 0 1 = .whole 255 ∧ out.sample 1 0 1 = out'.sample 1 0 1 := by
  have hzero : Scalar.eq (Sample.whole 0 : Sample Float).toScalar Scalar.zero = true := by
    decide +kernel
  have hblank : (markedRow 2).IsBlank none (countedPixels 2) 0 0 :=
    ⟨Scalar.zero, .inr ⟨rfl, rfl⟩, fun _ _ ↦ hzero⟩
  obtain ⟨out, out', hout, hout', -, hpixel, -⟩ :=
    transparency_of_raw_values (markedRow 2) (countedPixels 2) isFinite_countedPixels
      (show ChannelType.limits? .uint8 = some (0, 255) from rfl) 1 .unchanged
      ⟨none, Scalar.one, Scalar.one, false⟩ rfl none none (fun h ↦ by cases h) (fun h ↦ by cases h)
  obtain ⟨-, hfirst, -⟩ := hpixel 0 0 (by decide) (by decide)
  obtain ⟨hsame, -, hfull⟩ := hpixel 0 1 (by decide) (by decide)
  exact ⟨out, out', hout, hout', hfirst hblank, hfull not_isBlank_markedRow rfl, hsame⟩

/-- A pixel with data of an image without transparency, in a channel of 64 bits: for its
transparency it gets the least value. -/
theorem opacity_of_wide_channel :
    (countedPixels 2).IsFinite ∧ ¬ (markedRow 2).IsBlank none (countedPixels 2) 0 1 ∧
    (markedRow 2).format.hasAlpha = false ∧
    ∃ out, (markedRow 2).adjust (countedPixels 2) .unchanged .int64 1 none = .ok out ∧
      out.sample 1 0 1 = .whole (-9223372036854775808) :=
  ⟨isFinite_countedPixels, not_isBlank_markedRow, rfl, _, rfl, by decide +kernel⟩

end RasterSource

end QuadMosaic
