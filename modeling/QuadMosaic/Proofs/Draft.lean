import QuadMosaic.Proofs.Reading

/-!
# The last opaque view wins

In draft mode the views of a canvas hide each other: at every pixel the last view that holds it and
is not transparent there is what is read, and nothing is read where there is none.

A sample is accumulated as a number and cast back to the channel type of the canvas.  An integer
comes back as it was unless the number does not hold it exactly, which only channels of 64 bits
allow.
-/

namespace QuadMosaic

variable {α : Type}

namespace Sample

variable [Scalar α]

/-- Accumulating a sample does not change whether it is positive. -/
theorem isPositive_widened [LawfulScalar α] (s : Sample α) :
    s.widened.isPositive = s.isPositive := by
  cases s with
  | real x => rfl
  | whole n =>
    by_cases h : n.natAbs ≤ exactLimit
    · rw [widened, if_pos h]
    · rw [widened, if_neg h]
      exact LawfulScalar.lt_zero_ofInt n

/-- An integer that numbers hold exactly comes back from being accumulated. -/
theorem cast_widened_of_exact {t : ChannelType} {lo hi n : Int} (ht : t.limits? = some (lo, hi))
    (hlo : lo ≤ n) (hhi : n ≤ hi) (h : n.natAbs ≤ exactLimit) :
    (whole n : Sample α).widened.cast t = whole n := by
  rw [widened, if_pos h, cast, ht]
  exact congrArg whole (ChannelType.clampInt_eq_self hlo hhi)

/-- Any other integer comes back as the nearest number in the channel type. -/
theorem cast_widened_of_not_exact (t : ChannelType) {n : Int} (h : ¬ n.natAbs ≤ exactLimit) :
    (whole n : Sample α).widened.cast t = t.cast (Scalar.ofInt n : α) := by
  rw [widened, if_neg h]
  rfl

end Sample

namespace ChannelType

/-- Numbers hold all integers of the channel types of up to 32 bits. -/
theorem natAbs_le_exactLimit {t : ChannelType} {lo hi n : Int} (ht : t.limits? = some (lo, hi))
    (h : t ≠ .int64) (h' : t ≠ .uint64) (hlo : lo ≤ n) (hhi : n ≤ hi) :
    n.natAbs ≤ Sample.exactLimit := by
  unfold Sample.exactLimit
  cases t <;> cases ht <;> first | omega | contradiction

theorem zero_mem_limits {t : ChannelType} {lo hi : Int} (ht : t.limits? = some (lo, hi)) :
    lo ≤ 0 ∧ 0 ≤ hi := by
  cases t <;> cases ht <;> decide

end ChannelType

namespace View

variable {v : View α} {x y : Int}

/-- The samples of a view are integers within limits. -/
def IsWhole (v : View α) (lo hi : Int) : Prop :=
  ∀ b y x, b < v.pixels.bands → y < v.pixels.rows → x < v.pixels.cols →
    ∃ n, v.pixels.sample b y x = .whole n ∧ lo ≤ n ∧ n ≤ hi

theorem IsWhole.pixelAt {lo hi : Int} (h : v.IsWhole lo hi)
    (hbox : v.box.IsSized v.pixels.rows v.pixels.cols) (hxy : v.box.Holds x y) {b : Nat}
    (hb : b < v.pixels.bands) : ∃ n, v.pixels.pixelAt v.box x y b = .whole n ∧ lo ≤ n ∧ n ≤ hi := by
  obtain ⟨hcols, hrows⟩ := hbox
  unfold PixelBox.Holds at hxy
  exact h b _ _ hb (by omega) (by omega)

variable [Scalar α]

/-- A view holds a pixel and is not transparent there. -/
def Covers (v : View α) (x y : Int) : Prop :=
  v.box.Holds x y ∧ (v.pixels.pixelAt v.box x y (v.pixels.bands - 1)).isPositive = true

variable [LawfulScalar α] {channel : ChannelType} {cell : Cell α}

theorem layAt_of_covers (h : v.Covers x y) :
    v.layAt true channel x y cell =
      { cell with sample := fun b ↦ (v.pixels.pixelAt v.box x y b).widened } := by
  rw [layAt, if_pos h.1]
  exact if_pos ((Sample.isPositive_widened _).trans h.2)

theorem layAt_of_not_covers (h : ¬ v.Covers x y) :
    v.layAt true channel x y cell = cell := by
  unfold layAt
  split
  case isFalse => rfl
  case isTrue hxy =>
    exact if_neg fun hpositive ↦ h ⟨hxy, (Sample.isPositive_widened _).symm.trans hpositive⟩

end View

namespace Canvas

variable [Scalar α] {c : Canvas α} {x y : Int}

/-- In draft mode a cell is cast to the channel type as it is. -/
theorem Reads.pixel_of_draft {window : PixelBox} {r : Raster α} (h : c.Reads window r)
    (hdraft : c.draft = true) (hxy : window.Holds x y) (b : Nat) :
    r.pixelAt window x y b = ((c.cellAt x y).sample b).cast c.channel := by
  rw [h.pixel x y b hxy, hdraft]
  rfl

variable [LawfulScalar α]

theorem cellAt_of_last (hdraft : c.draft = true) {earlier later : List (View α)} {v : View α}
    (hviews : c.views = earlier ++ v :: later) (hv : v.Covers x y)
    (hlater : ∀ u ∈ later, ¬ u.Covers x y) (b : Nat) :
    (c.cellAt x y).sample b = (v.pixels.pixelAt v.box x y b).widened := by
  rw [cellAt, hdraft, hviews, List.foldl_append, List.foldl_cons,
    foldl_eq_self fun u hu ↦ View.layAt_of_not_covers (hlater u hu), View.layAt_of_covers hv]

theorem cellAt_of_none (hdraft : c.draft = true) (h : ∀ v ∈ c.views, ¬ v.Covers x y) :
    c.cellAt x y = Cell.blank := by
  rw [cellAt, hdraft]
  exact foldl_eq_self fun v hv ↦ View.layAt_of_not_covers (h v hv)

section

variable {window : PixelBox} {r : Raster α} {lo hi : Int}

/-- The last view that covers a pixel is what is read there, as far as numbers hold it exactly. -/
theorem Reads.pixel_of_last (h : c.Reads window r) (hdraft : c.draft = true)
    (hxy : window.Holds x y) (ht : c.channel.limits? = some (lo, hi))
    {earlier later : List (View α)} {v : View α} (hviews : c.views = earlier ++ v :: later)
    (hv : v.Covers x y) (hlater : ∀ u ∈ later, ¬ u.Covers x y) {b : Nat} {n : Int}
    (hn : v.pixels.pixelAt v.box x y b = .whole n) (hlo : lo ≤ n) (hhi : n ≤ hi) :
    r.pixelAt window x y b =
      if n.natAbs ≤ Sample.exactLimit then .whole n else c.channel.cast (Scalar.ofInt n) := by
  rw [h.pixel_of_draft hdraft hxy, cellAt_of_last hdraft hviews hv hlater, hn]
  split
  case isTrue hexact => exact Sample.cast_widened_of_exact ht hlo hhi hexact
  case isFalse hexact => exact Sample.cast_widened_of_not_exact c.channel hexact

/-- Zero is read where no view covers a pixel. -/
theorem Reads.pixel_of_none (h : c.Reads window r) (hdraft : c.draft = true)
    (hxy : window.Holds x y) (ht : c.channel.limits? = some (lo, hi))
    (hnone : ∀ v ∈ c.views, ¬ v.Covers x y) (b : Nat) : r.pixelAt window x y b = .whole 0 := by
  obtain ⟨hlo, hhi⟩ := ChannelType.zero_mem_limits ht
  rw [h.pixel_of_draft hdraft hxy, cellAt_of_none hdraft hnone]
  exact Sample.cast_widened_of_exact ht hlo hhi (by decide)

end

/-- A canvas of integers that was filled and prepared can be read in every window, if it has bands.
In draft mode a pixel of what is read is, in all bands, the pixel of the last view that covers it,
and zero where no view does.  A part of a window is read as it stands in the window, whether views
hide each other or are mixed, and whatever the canvas was prepared for.

The integers pass through the numbers that they are accumulated as.  They come back as they were
from all channels of up to 32 bits; in wider channels those that numbers do not hold exactly come
back as the number nearest to them, cast to the channel. -/
theorem read_last_opaque_and_local {bands lo hi : Int} {channel : ChannelType}
    {views : List (View α)} {filled prepared : Canvas α} {extent : PixelBox} {draft : Bool}
    (hchannel : channel.limits? = some (lo, hi)) (hfilled : Filled bands channel views filled)
    (hwhole : ∀ v ∈ views, v.IsWhole lo hi)
    (hprepare : filled.prepare extent draft = .ok prepared) :
    (1 ≤ bands → ∀ window, ∃ r, prepared.read window = .ok r) ∧
    ∀ window r, prepared.read window = .ok r →
      (r.bands = bands ∧ r.rows = window.height ∧ r.cols = window.width) ∧
      (draft = true → ∀ x y, window.Holds x y → ∀ b < r.bands,
        (∀ earlier v later, views = earlier ++ v :: later → v.Covers x y →
          (∀ u ∈ later, ¬ u.Covers x y) →
          ∃ n, v.pixels.pixelAt v.box x y b = .whole n ∧
            (channel ≠ .int64 → channel ≠ .uint64 → n.natAbs ≤ Sample.exactLimit) ∧
            r.pixelAt window x y b =
              if n.natAbs ≤ Sample.exactLimit then .whole n else channel.cast (Scalar.ofInt n)) ∧
        ((∀ v ∈ views, ¬ v.Covers x y) → r.pixelAt window x y b = .whole 0)) ∧
      ∀ part, (∀ x y, part.Holds x y → window.Holds x y) → ∃ r', prepared.read part = .ok r' ∧
        (r'.bands = r.bands ∧ r'.rows = part.height ∧ r'.cols = part.width) ∧
        ∀ x y b, part.Holds x y → r'.pixelAt part x y b = r.pixelAt window x y b := by
  obtain ⟨hsound, rfl, rfl, rfl, hextent, rfl⟩ := hfilled.prepare hprepare
  constructor
  · intro hpos window
    obtain ⟨r, hr, -⟩ := read_eq_ok hsound hextent (by omega) fun hz ↦ absurd hz (by omega)
    exact ⟨r, hr⟩
  intro window r hr
  have hreads := reads_of_read hsound hr
  obtain ⟨-, hnonneg, -⟩ := clear_of_read hsound hr
  have hsize := hreads.size hnonneg
  refine ⟨hsize, ?_, ?_⟩
  · intro hdraft x y hxy b hb
    constructor
    · intro earlier v later hviews hv hlater
      have hmem : v ∈ prepared.views := by
        rw [hviews]
        exact List.mem_append_right earlier List.mem_cons_self
      have hfits := hsound.fits v hmem
      have hbands := hfits.bands
      obtain ⟨n, hn, hlo, hhi⟩ := (hwhole v hmem).pixelAt hfits.box hv.1 (b := b) (by omega)
      refine ⟨n, hn, ?_, ?_⟩
      · intro h h'
        exact ChannelType.natAbs_le_exactLimit hchannel h h' hlo hhi
      · exact hreads.pixel_of_last hdraft hxy hchannel hviews hv hlater hn hlo hhi
    · intro hnone
      exact hreads.pixel_of_none hdraft hxy hchannel hnone b
  · intro part hpart
    obtain ⟨r', hr', hreads'⟩ := read_of_subset hsound hr hpart
    obtain ⟨hbands, hrows, hcols⟩ := hreads'.size hnonneg
    refine ⟨r', hr', ⟨by omega, hrows, hcols⟩, ?_⟩
    intro x y b hxy
    exact hreads'.pixel_eq hreads hxy (hpart x y hxy) b

/-- A view of one pixel hides the middle of a view of four. -/
theorem read_last_opaque_of_two_views :
    ∃ (filled prepared : Canvas Float) (r : Raster Float),
      Filled 2 .uint8 [View.flat 2 2 2 (-1) (-1) 200, View.flat 2 1 1 0 0 7] filled ∧
      filled.prepare ⟨0, 0, 4, 4⟩ true = .ok prepared ∧
      prepared.read ⟨-1, -1, 1, 1⟩ = .ok r ∧ r.pixelAt ⟨-1, -1, 1, 1⟩ 0 0 0 = .whole 7 := by
  obtain ⟨filled, hfilled⟩ : ∃ filled : Canvas Float, Filled 2 .uint8
      [View.flat 2 2 2 (-1) (-1) 200, View.flat 2 1 1 0 0 7] filled :=
    ⟨_, .insert ⟨[2, 1, 1], fun _ ↦ .whole 7⟩ 0 0 ""
      (.insert ⟨[2, 2, 2], fun _ ↦ .whole 200⟩ (-1) (-1) "" .new rfl) rfl⟩
  obtain ⟨prepared, hprepare⟩ : ∃ prepared, filled.prepare ⟨0, 0, 4, 4⟩ true = .ok prepared :=
    ⟨_, if_neg (by rw [hfilled.fields.2.2.2]; decide)⟩
  have hwhole : ∀ v ∈ ([View.flat 2 2 2 (-1) (-1) 200, View.flat 2 1 1 0 0 7] :
      List (View Float)), v.IsWhole 0 255 := by
    intro v hv b y x _ _ _
    simp only [List.mem_cons, List.not_mem_nil, or_false] at hv
    rcases hv with rfl | rfl
    · exact ⟨200, rfl, by decide, by decide⟩
    · exact ⟨7, rfl, by decide, by decide⟩
  obtain ⟨hread, hpixels⟩ := read_last_opaque_and_local rfl hfilled hwhole hprepare
  obtain ⟨r, hr⟩ := hread (by decide) ⟨-1, -1, 1, 1⟩
  obtain ⟨⟨hbands, -⟩, hdraft, -⟩ := hpixels ⟨-1, -1, 1, 1⟩ r hr
  obtain ⟨n, hn, -, hpixel⟩ := (hdraft rfl 0 0 (by decide) 0 (by omega)).1
    [View.flat 2 2 2 (-1) (-1) 200] (View.flat 2 1 1 0 0 7) [] rfl ⟨by decide, rfl⟩
    (fun u hu ↦ absurd hu List.not_mem_nil)
  obtain rfl : 7 = n := Sample.whole.inj hn
  exact ⟨filled, prepared, r, hfilled, hprepare, hr, hpixel⟩

/-- An integer of a channel of 64 bits that no double holds is not what is read. -/
theorem read_rounds_wide_integer :
    ∃ (v : View Float) (filled prepared : Canvas Float) (r : Raster Float),
      Filled 2 .int64 [v] filled ∧ filled.prepare ⟨0, 0, 1, 1⟩ true = .ok prepared ∧
      prepared.read ⟨0, 0, 1, 1⟩ = .ok r ∧ v.Covers 0 0 ∧
      v.pixels.pixelAt v.box 0 0 0 = .whole 9007199254740993 ∧
      r.pixelAt ⟨0, 0, 1, 1⟩ 0 0 0 = .whole 9007199254740992 :=
  ⟨_, _, _, _, .insert ⟨[2, 1, 1], fun _ ↦ .whole 9007199254740993⟩ 0 0 "" .new rfl, rfl, rfl,
    ⟨by decide, rfl⟩, rfl, rfl⟩

end Canvas

end QuadMosaic
