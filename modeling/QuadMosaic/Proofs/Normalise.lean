import Mathlib
import QuadMosaic.Compose.Observe
import QuadMosaic.Pixel.Adjust
import QuadMosaic.Proofs.Actions
import QuadMosaic.Proofs.Comparison
import QuadMosaic.Proofs.Draft
import QuadMosaic.Proofs.Exact

/-!
# The two passes of normalising

The first pass finds the range of the values of all sources, the second one takes that range to the
values of a channel.  They agree when they leave out the same pixels, those without data, and when
every value that the second pass meets lies in the range that the first one found.  Then nothing is
cut off: the least value becomes zero, the greatest one the channel's greatest, and the order of
values is kept from one source to another.

All of this is about exact numbers; doubles round on the way.
-/

namespace QuadMosaic

/-! ## Ranges -/

namespace PixelRange

/-- A range goes from the least number of a set to the greatest one. -/
structure Spans (r : PixelRange Exact) (s : Set Rat) (lo hi : Rat) : Prop where
  eq : r = ⟨.number lo, .number hi⟩
  least : IsLeast s lo
  greatest : IsGreatest s hi

/-- What was found is the range of a set, and nothing when the set is empty. -/
def Finds (found : Option (PixelRange Exact)) (s : Set Rat) : Prop :=
  match found with
  | none => s = ∅
  | some r => ∃ lo hi, r.Spans s lo hi

variable {r r' : PixelRange Exact} {s s' : Set Rat} {lo hi lo' hi' q : Rat}

theorem spans_singleton (q : Rat) : (⟨.number q, .number q⟩ : PixelRange Exact).Spans {q} q q :=
  ⟨rfl, isLeast_singleton, isGreatest_singleton⟩

theorem merge_number : (⟨.number lo, .number hi⟩ : PixelRange Exact).merge
    ⟨.number lo', .number hi'⟩ = ⟨.number (min lo lo'), .number (max hi hi')⟩ := by
  simp only [merge, Scalar.lesser, Scalar.greater, Exact.lt_number, decide_eq_true_eq, min_def,
    max_def]
  congr 1 <;> split <;> split <;> first | rfl | (congr 1; linarith)

/-- Merged ranges are the range of both sets. -/
theorem Spans.merge (h : r.Spans s lo hi) (h' : r'.Spans s' lo' hi') :
    (r.merge r').Spans (s ∪ s') (min lo lo') (max hi hi') := by
  obtain ⟨rfl, hleast, hgreatest⟩ := h
  obtain ⟨rfl, hleast', hgreatest'⟩ := h'
  exact ⟨merge_number, hleast.union hleast', hgreatest.union hgreatest'⟩

/-- The range of a list of numbers. -/
theorem spans_foldl {values : List Exact} (hvalues : ∀ v ∈ values, ∃ q, v = .number q)
    (h : r.Spans s lo hi) : ∃ lo' hi',
      (values.foldl (fun r v ↦ ⟨Scalar.meet r.lo v, Scalar.join r.hi v⟩) r).Spans
        (s ∪ {q | .number q ∈ values}) lo' hi' := by
  induction values generalizing r s lo hi with
  | nil => exact ⟨lo, hi, by simpa using h⟩
  | cons v values ih =>
    obtain ⟨q, rfl⟩ := hvalues v List.mem_cons_self
    -- one more number in a fold of numbers merges its own range
    have hstep := h.merge (spans_singleton q)
    obtain ⟨rfl, -, -⟩ := h
    have hset : s ∪ {q' | .number q' ∈ .number q :: values} =
        s ∪ {q} ∪ {q' | .number q' ∈ values} := by
      ext q'
      simp [or_assoc, or_left_comm]
    rw [List.foldl_cons, hset]
    exact ih (fun v hv ↦ hvalues v (List.mem_cons_of_mem _ hv)) hstep

theorem finds_ofValues {values : List Exact} (hvalues : ∀ v ∈ values, ∃ q, v = .number q) :
    Finds (ofValues? values) {q | .number q ∈ values} := by
  cases values with
  | nil => simp [Finds, ofValues?]
  | cons v values =>
    obtain ⟨q, rfl⟩ := hvalues v List.mem_cons_self
    obtain ⟨lo, hi, h⟩ := spans_foldl (fun v hv ↦ hvalues v (List.mem_cons_of_mem _ hv))
      (spans_singleton q)
    refine ⟨lo, hi, ?_⟩
    have hset : {q' | .number q' ∈ .number q :: values} = {q} ∪ {q' | .number q' ∈ values} := by
      ext q'
      simp
    rw [hset]
    exact h

/-- One more source: nothing found changes nothing, a first range is taken over, a further one is
merged. -/
theorem mergeAll_concat (found : List (Option (PixelRange Exact)))
    (last : Option (PixelRange Exact)) :
    mergeAll? (found ++ [last]) =
      match mergeAll? found, last with
      | before, none => before
      | none, some r => some r
      | some before, some r => some (before.merge r) := by
  unfold mergeAll?
  rw [List.filterMap_append]
  cases last with
  | none => simp
  | some r => cases found.filterMap id <;> simp

theorem Finds.concat {found : List (Option (PixelRange Exact))} {last : Option (PixelRange Exact)}
    (h : Finds (mergeAll? found) s) (h' : Finds last s') :
    Finds (mergeAll? (found ++ [last])) (s ∪ s') := by
  rw [mergeAll_concat]
  generalize mergeAll? found = before at h
  unfold Finds at h h'
  cases last with
  | none =>
    rw [h', Set.union_empty]
    exact h
  | some r =>
    cases before with
    | none =>
      rw [h, Set.empty_union]
      exact h'
    | some before =>
      obtain ⟨lo, hi, h⟩ := h
      obtain ⟨lo', hi', h'⟩ := h'
      exact ⟨_, _, h.merge h'⟩

/-- The range of all sources is the range of all their numbers. -/
theorem finds_mergeAll {β : Type} {f : β → Option (PixelRange Exact)} {numbers : β → Set Rat}
    {l : List β} (h : ∀ b ∈ l, Finds (f b) (numbers b)) :
    Finds (mergeAll? (l.map f)) {q | ∃ b ∈ l, q ∈ numbers b} := by
  induction l using List.reverseRecOn with
  | nil => simp [Finds, mergeAll?]
  | append_singleton l b ih =>
    have hset : {q | ∃ c ∈ l ++ [b], q ∈ numbers c} =
        {q | ∃ c ∈ l, q ∈ numbers c} ∪ numbers b := by
      ext q
      simp [or_and_right, exists_or]
    rw [List.map_append, hset]
    exact (ih fun c hc ↦ h c (List.mem_append_left _ hc)).concat
      (h b (List.mem_append_right _ List.mem_cons_self))

end PixelRange

/-! ## The first pass -/

namespace RasterSource

variable {s : RasterSource Exact} {configured : Option Exact} {pixels : Raster Exact} {b y x : Nat}
  {q : Rat}

/-- The colour channels of the pixels of a source are there and finite. -/
structure IsFinite (s : RasterSource Exact) (pixels : Raster Exact) : Prop where
  bands : s.format.colorBands ≤ pixels.bands
  number : ∀ b y x, b < s.format.colorBands → y < pixels.rows → x < pixels.cols →
    ∃ q, (pixels.sample b y x).toScalar = .number q

/-- A pixel holds data: some colour channel differs from the value that marks missing data. -/
structure HasData (s : RasterSource Exact) (configured : Option Exact) (pixels : Raster Exact)
    (y x : Nat) : Prop where
  row : y < pixels.rows
  col : x < pixels.cols
  differs : ∀ v, s.Marks configured v →
    ∃ b < s.format.colorBands, (pixels.sample b y x).toScalar ≠ v

/-- The values of the colour channels of all pixels that hold data. -/
def dataValues (s : RasterSource Exact) (configured : Option Exact) (pixels : Raster Exact) :
    Set Rat :=
  {q | ∃ y x, s.HasData configured pixels y x ∧
    ∃ b < s.format.colorBands, (pixels.sample b y x).toScalar = .number q}

/-- The pixels that are left out are those without data. -/
theorem IsFinite.isMasked_eq_false_iff (h : s.IsFinite pixels) (configured : Option Exact)
    (hy : y < pixels.rows) (hx : x < pixels.cols) :
    (pixels.take s.format.colorBands).isMasked (s.effectiveNodata configured) y x = false ↔
      s.HasData configured pixels y x := by
  have hbands : min s.format.colorBands pixels.bands = s.format.colorBands :=
    Nat.min_eq_left h.bands
  cases hnodata : s.effectiveNodata configured with
  | none =>
    refine iff_of_true rfl ⟨hy, hx, fun v hv ↦ ?_⟩
    cases hnodata.symm.trans (effectiveNodata_eq_some_iff.2 hv)
  | some v =>
    have hdiffers : s.HasData configured pixels y x ↔
        ∃ b < s.format.colorBands, (pixels.sample b y x).toScalar ≠ v := by
      constructor
      · intro hdata
        exact hdata.differs v (effectiveNodata_eq_some_iff.1 hnodata)
      · intro hdiffers
        refine ⟨hy, hx, fun w hw ↦ ?_⟩
        cases hnodata.symm.trans (effectiveNodata_eq_some_iff.2 hw)
        exact hdiffers
    have hnumbers (b : Nat) (hb : b < (pixels.take s.format.colorBands).bands) :
        ¬ Scalar.isNaN ((pixels.take s.format.colorBands).sample b y x).toScalar = true := by
      obtain ⟨q, hq⟩ := h.number b y x (hb.trans_le (Nat.min_le_left _ _)) hy hx
      change ¬ Scalar.isNaN (pixels.sample b y x).toScalar = true
      rw [hq]
      exact Bool.false_ne_true
    rw [hdiffers, ← Bool.not_eq_true, Raster.isMasked_iff hnumbers]
    simp only [Raster.take, hbands, not_forall, exists_prop]
    refine exists_congr fun b ↦ and_congr_right fun hb ↦ not_congr ?_
    obtain ⟨q, hq⟩ := h.number b y x hb hy hx
    rw [hq]
    exact Exact.eq_number_iff

/-- The values that the first pass looks at. -/
theorem IsFinite.mem_unmasked (h : s.IsFinite pixels) (v : Exact) :
    v ∈ (pixels.take s.format.colorBands).unmasked (s.effectiveNodata configured) ↔
      ∃ y x, s.HasData configured pixels y x ∧
        ∃ b < s.format.colorBands, (pixels.sample b y x).toScalar = v := by
  have hbands : (pixels.take s.format.colorBands).bands = s.format.colorBands :=
    Nat.min_eq_left h.bands
  simp only [Raster.unmasked, Raster.places, List.mem_flatMap, List.mem_map, List.mem_filter,
    List.mem_range, Prod.exists, Prod.mk.injEq, Bool.not_eq_true']
  constructor
  · rintro ⟨b, hb, y, x, ⟨⟨y', hy, x', hx, rfl, rfl⟩, hmasked⟩, hv⟩
    exact ⟨y', x', (h.isMasked_eq_false_iff configured hy hx).1 hmasked, b, hb.trans_eq hbands, hv⟩
  · rintro ⟨y, x, hdata, b, hb, hv⟩
    exact ⟨b, hb.trans_eq hbands.symm, y, x, ⟨⟨y, hdata.row, x, hdata.col, rfl, rfl⟩,
      (h.isMasked_eq_false_iff configured hdata.row hdata.col).2 hdata⟩, hv⟩

/-- The range of one source is that of its data. -/
theorem IsFinite.finds_observedRange (h : s.IsFinite pixels) :
    PixelRange.Finds (s.observedRange? configured pixels) (s.dataValues configured pixels) := by
  have hset : s.dataValues configured pixels = {q | .number q ∈
      (pixels.take s.format.colorBands).unmasked (s.effectiveNodata configured)} := by
    ext q
    exact (h.mem_unmasked (.number q)).symm
  rw [hset]
  refine PixelRange.finds_ofValues fun v hv ↦ ?_
  obtain ⟨y, x, hdata, b, hb, rfl⟩ := (h.mem_unmasked v).1 hv
  exact h.number b y x hb hdata.row hdata.col

/-- A source has no values only when none of its pixels holds data. -/
theorem IsFinite.dataValues_nonempty (h : s.IsFinite pixels)
    (hdata : s.HasData configured pixels y x) : (s.dataValues configured pixels).Nonempty := by
  obtain ⟨q, hq⟩ := h.number 0 y x s.format.colorBands_pos hdata.row hdata.col
  exact ⟨q, y, x, hdata, 0, s.format.colorBands_pos, hq⟩

end RasterSource

namespace PixelRange

section

variable {α : Type} [Scalar α] {engine : Engine α} {sources : List (RasterSource α)}
  {pixels : RasterSource α → Raster α}

theorem observeOne_eq (configured : Option α) {s : RasterSource α}
    (hread : engine.readSource s = some (pixels s)) (log : List LogRecord) :
    ∃ log', observeOne engine configured s log =
      .ok (s.observedRange? configured (pixels s)) log' := by
  have hpixels : engine.pixelsOf s = .ok (pixels s) := by
    rw [Engine.pixelsOf, hread]
  unfold observeOne
  rw [hpixels]
  cases hrange : s.observedRange? configured (pixels s) with
  | some r => exact ⟨log, by simp [Logging.ofExcept, hrange]; rfl⟩
  | none => exact ⟨_, by simp [Logging.ofExcept, hrange]; rfl⟩

/-- Reading the sources in turn finds the range of each. -/
theorem mapM_observeOne (configured : Option α)
    (hread : ∀ s ∈ sources, engine.readSource s = some (pixels s)) (log : List LogRecord) :
    ∃ log', sources.mapM (observeOne engine configured) log =
      .ok (sources.map fun s ↦ s.observedRange? configured (pixels s)) log' := by
  induction sources generalizing log with
  | nil => exact ⟨log, rfl⟩
  | cons s sources ih =>
    obtain ⟨mid, hone⟩ := observeOne_eq configured (hread s List.mem_cons_self) log
    obtain ⟨log', hrest⟩ := ih (fun u hu ↦ hread u (List.mem_cons_of_mem s hu)) mid
    refine ⟨log', ?_⟩
    rw [List.mapM_cons, Action.bind_of_eq_ok hone, Action.bind_of_eq_ok hrest]
    rfl

/-- When all sources can be read, the first pass merges the ranges found. -/
theorem observe_eq (configured : Option α)
    (hread : ∀ s ∈ sources, engine.readSource s = some (pixels s)) (log : List LogRecord) :
    ∃ log', observe engine configured sources log =
      match mergeAll? (sources.map fun s ↦ s.observedRange? configured (pixels s)) with
      | some r => .ok r log'
      | none => .error (.config .noValidPixel) log' := by
  obtain ⟨log', hfound⟩ := mapM_observeOne configured hread log
  refine ⟨log', ?_⟩
  unfold observe
  rw [Action.bind_of_eq_ok hfound]
  cases mergeAll? (sources.map fun s ↦ s.observedRange? configured (pixels s)) <;> rfl

end

variable {engine : Engine Exact} {configured : Option Exact} {sources : List (RasterSource Exact)}
  {pixels : RasterSource Exact → Raster Exact}

/-- The values of all sources. -/
def allValues (sources : List (RasterSource Exact)) (configured : Option Exact)
    (pixels : RasterSource Exact → Raster Exact) : Set Rat :=
  {q | ∃ s ∈ sources, q ∈ s.dataValues configured (pixels s)}

/-- The first pass finds the range of all values, or fails when there are none. -/
theorem observe_cases (configured : Option Exact)
    (hread : ∀ s ∈ sources, engine.readSource s = some (pixels s))
    (hfinite : ∀ s ∈ sources, s.IsFinite (pixels s)) (log : List LogRecord) :
    (allValues sources configured pixels = ∅ ∧
      ∃ log', observe engine configured sources log = .error (.config .noValidPixel) log') ∨
    ∃ r lo hi log', r.Spans (allValues sources configured pixels) lo hi ∧
      observe engine configured sources log = .ok r log' := by
  obtain ⟨log', hobserve⟩ := observe_eq configured hread log
  have hfinds : Finds (mergeAll? (sources.map fun s ↦ s.observedRange? configured (pixels s)))
      (allValues sources configured pixels) :=
    finds_mergeAll fun s hs ↦ (hfinite s hs).finds_observedRange
  rw [hobserve]
  generalize mergeAll? (sources.map fun s ↦ s.observedRange? configured (pixels s)) = merged
    at hfinds ⊢
  cases merged with
  | none => exact .inl ⟨hfinds, log', rfl⟩
  | some r =>
    obtain ⟨lo, hi, hspans⟩ := hfinds
    exact .inr ⟨r, lo, hi, log', hspans, rfl⟩

/-! ## The second pass -/

/-- A value of a range as a value of a channel, with nothing cut off. -/
def stretch (lo hi : Rat) (full : Int) (q : Rat) : Int :=
  Scalar.nearestRat (if lo < hi then (q - lo) / (hi - lo) * full else 0)

variable {lo hi q : Rat} {full : Int}

theorem nearestRat_zero : Scalar.nearestRat 0 = 0 := nearestRat_intCast 0

/-- The least value becomes zero. -/
theorem stretch_least (lo hi : Rat) (full : Int) : stretch lo hi full lo = 0 := by
  unfold stretch
  split
  · rw [sub_self, zero_div, zero_mul]
    exact nearestRat_zero
  · exact nearestRat_zero

/-- The greatest value becomes the channel's greatest. -/
theorem stretch_greatest (h : lo < hi) (full : Int) : stretch lo hi full hi = full := by
  unfold stretch
  rw [if_pos h, div_self (sub_ne_zero.2 (ne_of_gt h)), one_mul]
  exact nearestRat_intCast full

theorem stretch_mono (hfull : 0 ≤ full) : Monotone (stretch lo hi full) := by
  intro p q hpq
  unfold stretch
  split
  case isFalse => exact le_refl _
  case isTrue h =>
    have hspan : 0 < hi - lo := sub_pos.2 h
    have hfull' : (0 : Rat) ≤ full := Int.cast_nonneg hfull
    exact Scalar.nearestRat_mono (by gcongr)

/-- Values of the range become values of the channel. -/
theorem stretch_mem (hfull : 0 ≤ full) (hlo : lo ≤ q) (hhi : q ≤ hi) :
    0 ≤ stretch lo hi full q ∧ stretch lo hi full q ≤ full := by
  have hmono : Monotone (stretch lo hi full) := stretch_mono hfull
  have hleast := hmono hlo
  have hgreatest := hmono hhi
  rw [stretch_least] at hleast
  refine ⟨hleast, hgreatest.trans ?_⟩
  by_cases h : lo < hi
  · rw [stretch_greatest h]
  · rw [stretch, if_neg h, nearestRat_zero]
    exact hfull

/-- Normalising a value of the range does not cut it off. -/
theorem normalise_number (hlo : lo ≤ q) (hhi : q ≤ hi) :
    (⟨.number lo, .number hi⟩ : PixelRange Exact).normalise (.number q) =
      .number (if lo < hi then (q - lo) / (hi - lo) else 0) := by
  unfold normalise span
  by_cases h : lo < hi
  · have hspan : 0 < hi - lo := sub_pos.2 h
    have hnonneg : 0 ≤ (q - lo) / (hi - lo) := div_nonneg (sub_nonneg.2 hlo) (le_of_lt hspan)
    have hle : (q - lo) / (hi - lo) ≤ 1 := (div_le_one hspan).2 (by linarith)
    rw [Exact.number_sub_number, Exact.number_sub_number, Exact.zero_eq, Exact.lt_number,
      decide_eq_true hspan, if_neg (by simp), if_pos h,
      Exact.number_div_number (ne_of_gt hspan)]
    simp only [Scalar.clamp, Exact.one_eq, Exact.lt_number, decide_eq_true_eq, not_lt.2 hnonneg,
      not_lt.2 hle, if_false]
  · have hspan : ¬ 0 < hi - lo := fun hspan ↦ h (sub_pos.1 hspan)
    rw [Exact.number_sub_number, Exact.zero_eq, Exact.lt_number, decide_eq_false hspan,
      Exact.isNaN_number, if_pos (by decide), if_neg h]

end PixelRange

/-- A number that rounds to a value of an integer channel becomes that value. -/
theorem ChannelType.cast_number {t : ChannelType} {least greatest : Int}
    (ht : t.limits? = some (least, greatest)) {q : Rat} (hleast : least ≤ Scalar.nearestRat q)
    (hgreatest : Scalar.nearestRat q ≤ greatest) :
    t.cast (.number q : Exact) = .whole (Scalar.nearestRat q) := by
  unfold ChannelType.cast
  rw [ht]
  simp only [Exact.nearest_number, settle]
  rw [if_neg (by omega), clampInt_eq_self hleast hgreatest]

namespace RasterSource

variable {s : RasterSource Exact} {pixels : Raster Exact} {options : PixelOptions Exact}
  {channel : ChannelType} {least greatest : Int} {lo hi : Rat}

/-- The second pass leaves out the pixels without data, and stretches the values of the others. -/
theorem IsFinite.adjust (h : s.IsFinite pixels) (hnormalize : options.normalize = true)
    (hchannel : channel.limits? = some (least, greatest))
    (hrange : ∀ q ∈ s.dataValues options.nodata pixels, lo ≤ q ∧ q ≤ hi) :
    ∃ out, s.adjust pixels options channel s.format.colorBands
        (some ⟨.number lo, .number hi⟩) = .ok out ∧
      (out.bands = s.format.colorBands + 1 ∧ out.rows = pixels.rows ∧ out.cols = pixels.cols) ∧
      ∀ y x, y < pixels.rows → x < pixels.cols →
        (¬ s.HasData options.nodata pixels y x → ∀ b, out.sample b y x = .whole 0) ∧
        (s.HasData options.nodata pixels y x →
          out.sample s.format.colorBands y x = channel.cast (s.opacity pixels channel y x) ∧
          ∀ b < s.format.colorBands, ∃ q, (pixels.sample b y x).toScalar = .number q ∧
            lo ≤ q ∧ q ≤ hi ∧
            out.sample b y x = .whole (PixelRange.stretch lo hi greatest q)) := by
  obtain ⟨hleast, hgreatest⟩ := ChannelType.zero_mem_limits hchannel
  have hok : (options.normalize && (some (⟨.number lo, .number hi⟩ : PixelRange Exact)).isNone) =
      false := Bool.and_false _
  unfold RasterSource.adjust
  rw [hok, if_neg (by decide)]
  refine ⟨_, rfl, ⟨rfl, rfl, rfl⟩, ?_⟩
  intro y x hy hx
  have hmasked := h.isMasked_eq_false_iff options.nodata hy hx
  simp only
  constructor
  · intro hnone b
    rw [if_pos (by rwa [← hmasked, Bool.not_eq_false] at hnone), Exact.zero_eq,
      ChannelType.cast_number hchannel] <;> rw [PixelRange.nearestRat_zero] <;> assumption
  · intro hdata
    rw [hmasked.2 hdata, if_neg (by decide), if_neg (Nat.lt_irrefl _)]
    refine ⟨rfl, fun b hb ↦ ?_⟩
    obtain ⟨q, hq⟩ := h.number b y x hb hy hx
    obtain ⟨hlo, hhi⟩ := hrange q ⟨y, x, hdata, b, hb, hq⟩
    have hmem := PixelRange.stretch_mem hgreatest hlo hhi
    have hgiven : (pixels.take s.format.colorBands).bands = s.format.colorBands :=
      Nat.min_eq_left h.bands
    have hvalue : options.value (some ⟨.number lo, .number hi⟩) channel.full (.number q) =
        .number (if lo < hi then (q - lo) / (hi - lo) * greatest else 0) := by
      have hfull : (channel.full : Exact) = .number greatest := by
        unfold ChannelType.full
        rw [hchannel]
        rfl
      unfold PixelOptions.value
      rw [hnormalize, hfull]
      simp only [PixelRange.normalise_number hlo hhi, Exact.number_mul_number, ite_mul, zero_mul]
    refine ⟨q, hq, hlo, hhi, ?_⟩
    rw [if_neg (by decide), if_pos hb, Planes.matchBands, if_pos hgiven]
    change channel.cast (options.value _ _ (pixels.sample b y x).toScalar) = _
    rw [hq, hvalue]
    exact ChannelType.cast_number hchannel (hleast.trans hmem.1) hmem.2

end RasterSource

namespace PixelRange

/-- The two passes of normalising agree, for exact numbers.

The first pass fails exactly when no pixel of any source holds data.  Otherwise it finds the least
and the greatest value of the colour channels of all pixels that hold data.  With that range the
second pass makes all other pixels transparent and zero, and takes each value of these to a value of
the channel without cutting it off: the least one to zero, the greatest one to the channel's
greatest unless all are equal, and keeping the order, by one rule for all sources. -/
theorem normalising_passes_agree (engine : Engine Exact) (options : PixelOptions Exact)
    (sources : List (RasterSource Exact)) (pixels : RasterSource Exact → Raster Exact)
    (hnormalize : options.normalize = true) {channel : ChannelType} {least greatest : Int}
    (hchannel : channel.limits? = some (least, greatest)) {colorBands : Nat}
    (hread : ∀ s ∈ sources, engine.readSource s = some (pixels s))
    (hfinite : ∀ s ∈ sources, s.IsFinite (pixels s))
    (hbands : ∀ s ∈ sources, s.format.colorBands = colorBands) (log : List LogRecord) :
    ((∃ log', observe engine options.nodata sources log = .error (.config .noValidPixel) log') ↔
      ∀ s ∈ sources, ∀ y x, ¬ s.HasData options.nodata (pixels s) y x) ∧
    ((∃ s ∈ sources, ∃ y x, s.HasData options.nodata (pixels s) y x) → ∃ lo hi log',
      observe engine options.nodata sources log = .ok ⟨.number lo, .number hi⟩ log' ∧
      IsLeast (allValues sources options.nodata pixels) lo ∧
      IsGreatest (allValues sources options.nodata pixels) hi ∧
      (stretch lo hi greatest lo = 0 ∧ (lo < hi → stretch lo hi greatest hi = greatest) ∧
        Monotone (stretch lo hi greatest)) ∧
      ∀ s ∈ sources, ∃ out,
        s.adjust (pixels s) options channel colorBands (some ⟨.number lo, .number hi⟩) = .ok out ∧
        (out.bands = colorBands + 1 ∧ out.rows = (pixels s).rows ∧ out.cols = (pixels s).cols) ∧
        ∀ y x, y < (pixels s).rows → x < (pixels s).cols →
          (¬ s.HasData options.nodata (pixels s) y x → ∀ b, out.sample b y x = .whole 0) ∧
          (s.HasData options.nodata (pixels s) y x →
            out.sample colorBands y x = channel.cast (s.opacity (pixels s) channel y x) ∧
            ∀ b < colorBands, ∃ q, ((pixels s).sample b y x).toScalar = .number q ∧
              (lo ≤ q ∧ q ≤ hi) ∧
              (0 ≤ stretch lo hi greatest q ∧ stretch lo hi greatest q ≤ greatest) ∧
              out.sample b y x = .whole (stretch lo hi greatest q))) := by
  obtain ⟨-, hgreatest⟩ := ChannelType.zero_mem_limits hchannel
  have hempty : allValues sources options.nodata pixels = ∅ ↔
      ∀ s ∈ sources, ∀ y x, ¬ s.HasData options.nodata (pixels s) y x := by
    rw [Set.eq_empty_iff_forall_notMem]
    constructor
    · intro hnone s hs y x hdata
      obtain ⟨q, hq⟩ := (hfinite s hs).dataValues_nonempty hdata
      exact hnone q ⟨s, hs, hq⟩
    · rintro hnone q ⟨s, hs, y, x, hdata, -⟩
      exact hnone s hs y x hdata
  rcases observe_cases options.nodata hread hfinite log with
    ⟨hnone, log', herror⟩ | ⟨r, lo, hi, log', ⟨rfl, hleast, hmost⟩, hok⟩
  · refine ⟨iff_of_true ⟨log', herror⟩ (hempty.1 hnone), ?_⟩
    rintro ⟨s, hs, y, x, hdata⟩
    exact absurd hdata (hempty.1 hnone s hs y x)
  constructor
  · refine iff_of_false ?_ fun hnone ↦ ?_
    · rintro ⟨log'', herror⟩
      cases hok.symm.trans herror
    · rw [hempty.2 hnone] at hleast
      exact hleast.1
  · intro _
    refine ⟨lo, hi, log', hok, hleast, hmost, ⟨stretch_least lo hi greatest,
      fun h ↦ stretch_greatest h greatest, stretch_mono hgreatest⟩, ?_⟩
    intro s hs
    obtain ⟨out, hadjust, hsize, hpixel⟩ := (hfinite s hs).adjust hnormalize hchannel
      fun q hq ↦ ⟨hleast.2 ⟨s, hs, hq⟩, hmost.2 ⟨s, hs, hq⟩⟩
    rw [hbands s hs] at hadjust hsize hpixel
    refine ⟨out, hadjust, hsize, fun y x hy hx ↦ ⟨(hpixel y x hy hx).1, fun hdata ↦ ?_⟩⟩
    obtain ⟨halpha, hcolor⟩ := (hpixel y x hy hx).2 hdata
    refine ⟨halpha, fun b hb ↦ ?_⟩
    obtain ⟨q, hq, hlo, hhi, hsample⟩ := hcolor b hb
    exact ⟨q, hq, ⟨hlo, hhi⟩, stretch_mem hgreatest hlo hhi, hsample⟩

/-- An image of three gray pixels of which the first marks missing data. -/
def threePixels : RasterSource Exact where
  path := Path.ofString "three.tif"
  format := .gray
  channel := .uint8
  cols := 3
  rows := 1
  bandCount := 1
  nodata := some (.number 10)
  crs := none
  transform := Affine.identity

/-- The pixels 10, 20 and 30. -/
def threeValues : Raster Exact := ⟨1, 1, 3, fun _ _ x ↦ .whole (10 * (x + 1))⟩

/-- An engine that reads these pixels. -/
def threeReader : Engine Exact where
  openSource _ := none
  readSource _ := some threeValues
  project _ _ := none
  warp pixels _ _ _ _ := pixels

/-- Their range is from 20 to 30, so the last one gets full intensity. -/
theorem normalising_passes_agree_three_pixels :
    ∃ lo hi log' out,
      observe threeReader none [threePixels] [] = .ok ⟨.number lo, .number hi⟩ log' ∧
      threePixels.adjust threeValues { PixelOptions.unchanged with normalize := true } .uint8 1
        (some ⟨.number lo, .number hi⟩) = .ok out ∧
      out.sample 0 0 0 = .whole 0 ∧ out.sample 0 0 1 = .whole 0 ∧
      out.sample 0 0 2 = .whole 255 := by
  have hmark {v : Exact} (hv : threePixels.Marks none v) : v = .number 10 := by
    rcases hv with hv | ⟨-, hv⟩ <;> cases hv
    rfl
  have hfirst : ¬ threePixels.HasData none threeValues 0 0 := by
    rintro ⟨-, -, hdiffers⟩
    obtain ⟨b, -, hne⟩ := hdiffers _ (.inr ⟨rfl, rfl⟩)
    exact hne rfl
  have hsecond : threePixels.HasData none threeValues 0 1 :=
    ⟨by decide, by decide, fun v hv ↦ ⟨0, by decide, hmark hv ▸ by decide⟩⟩
  have hthird : threePixels.HasData none threeValues 0 2 :=
    ⟨by decide, by decide, fun v hv ↦ ⟨0, by decide, hmark hv ▸ by decide⟩⟩
  obtain ⟨-, hagree⟩ := normalising_passes_agree threeReader
    { PixelOptions.unchanged with normalize := true } [threePixels] (fun _ ↦ threeValues) rfl
    (show ChannelType.limits? .uint8 = some (0, 255) from rfl) (fun _ _ ↦ rfl)
    (fun s hs ↦ by
      obtain rfl := List.mem_singleton.1 hs
      exact ⟨le_refl _, fun _ _ x _ _ _ ↦ ⟨_, rfl⟩⟩)
    (fun s hs ↦ by
      obtain rfl := List.mem_singleton.1 hs
      exact (rfl : _ = 1)) []
  obtain ⟨lo, hi, log', hok, hleast, hgreatest, ⟨hlo, hhi, -⟩, hadjust⟩ :=
    hagree ⟨threePixels, List.mem_singleton.2 rfl, 0, 1, hsecond⟩
  obtain ⟨out, hout, -, hpixel⟩ := hadjust threePixels (List.mem_singleton.2 rfl)
  have hvalues (q : Rat) (hq : q ∈ allValues [threePixels] none fun _ ↦ threeValues) :
      q = 20 ∨ q = 30 := by
    obtain ⟨s, hs, y, x, hdata, b, -, hq⟩ := hq
    obtain rfl := List.mem_singleton.1 hs
    obtain rfl : y = 0 := Nat.lt_one_iff.1 hdata.row
    have hx : x < 3 := hdata.col
    cases hq
    interval_cases x
    · exact absurd hdata hfirst
    · exact .inl (by decide +kernel)
    · exact .inr (by decide +kernel)
  have hleast' := hleast.2 ⟨threePixels, List.mem_singleton.2 rfl, 0, 1, hsecond, 0, by decide,
    (by decide +kernel : (threeValues.sample 0 0 1).toScalar = .number 20)⟩
  have hgreatest' := hgreatest.2 ⟨threePixels, List.mem_singleton.2 rfl, 0, 2, hthird, 0,
    by decide, (by decide +kernel : (threeValues.sample 0 0 2).toScalar = .number 30)⟩
  obtain rfl : lo = 20 := (hvalues lo hleast.1).resolve_right fun h ↦ by linarith
  obtain rfl : hi = 30 := (hvalues hi hgreatest.1).resolve_left fun h ↦ by linarith
  refine ⟨_, _, log', out, hok, hout, (hpixel 0 0 (by decide) (by decide)).1 hfirst 0, ?_, ?_⟩
  · obtain ⟨q, hq, -, -, hsample⟩ :=
      ((hpixel 0 1 (by decide) (by decide)).2 hsecond).2 0 (by decide)
    obtain rfl : 20 = q := Exact.number.inj ((by decide +kernel : Exact.number 20 = _).trans hq)
    rw [hsample, hlo]
  · obtain ⟨q, hq, -, -, hsample⟩ :=
      ((hpixel 0 2 (by decide) (by decide)).2 hthird).2 0 (by decide)
    obtain rfl : 30 = q := Exact.number.inj ((by decide +kernel : Exact.number 30 = _).trans hq)
    rw [hsample, hhi (by norm_num)]

end PixelRange

end QuadMosaic
