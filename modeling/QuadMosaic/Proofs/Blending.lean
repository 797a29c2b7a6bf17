import Mathlib
import QuadMosaic.Proofs.Opacity

/-!
# Blending is a weighted mean

A canvas that is not in draft mode gathers three things at a pixel: the colours of the views weighted
by their transparency, the weights, and the greatest transparency.  Over the rationals, where sums
are not rounded, the first two are sums over the views, so that they do not depend on the order of
the views, and their quotient is a weighted mean.

Views that do not cover the pixel have no weight.  Where at most one view covers it, the mean is its
colour, which is what draft mode shows.
-/

namespace QuadMosaic

/-! ## Integers as rationals -/

namespace Sample

theorem toScalar_widened {α : Type} [Scalar α] (s : Sample α) : s.widened.toScalar = s.toScalar := by
  cases s with
  | real x => rfl
  | whole n => exact (isInt_widened n).toScalar

theorem isPositive_iff {s : Sample Rat} : s.isPositive = true ↔ 0 < s.toScalar := by
  cases s with
  | real x => exact decide_eq_true_iff
  | whole n => exact decide_eq_true_iff.trans Int.cast_pos.symm

variable {s u : Sample Rat} {m n : Int} {t : ChannelType}

/-- The greater of two integers. -/
theorem IsInt.join_rat (h : s.IsInt m) (h' : u.IsInt n) : (s.join u).IsInt (max m n) := by
  have hreal : Scalar.join (m : Rat) n = ((max m n : Int) : Rat) := by
    change (if decide ((m : Rat) < n) = true then (n : Rat) else m) = _
    split <;> rename_i hlt <;> rw [decide_eq_true_iff, Int.cast_lt] at hlt
    · rw [max_eq_right (by omega)]
    · rw [max_eq_left (by omega)]
  rcases h with rfl | rfl <;> rcases h' with rfl | rfl
  · exact .inl rfl
  all_goals exact .inr (congrArg real hreal)

theorem nearest_intCast (n : Int) : Scalar.nearest (n : Rat) = .whole n :=
  congrArg Rounded.whole (nearestRat_intCast n)

/-- An integer that does not wrap round may become a number before it is cast. -/
theorem IsInt.cast_eq (h : s.IsInt n) (hkept : ¬ t.Wraps (n : Rat)) :
    s.cast t = t.cast (n : Rat) := by
  rcases h with rfl | rfl
  case inr => rfl
  cases ht : t.limits? with
  | none =>
    rw [cast, ht]
    rfl
  | some limits =>
    obtain ⟨lo, hi⟩ := limits
    have hfits : ¬ (exactLimit < hi ∧ hi < n) := by
      rintro ⟨hwide, hlt⟩
      exact hkept ⟨lo, hi, ht, hwide, by rwa [nearest_intCast]⟩
    have hcast : t.cast (n : Rat) = whole (ChannelType.settle lo hi (.whole n)) := by
      rw [ChannelType.cast, ht, nearest_intCast]
    rw [hcast, ChannelType.settle, if_neg hfits, cast, ht]

/-- Accumulating an integer does not change what it is cast to. -/
theorem cast_widened_rat (n : Int) (t : ChannelType) :
    (whole n : Sample Rat).widened.cast t = t.cast (n : Rat) := by
  by_cases h : n.natAbs ≤ exactLimit
  · rw [widened, if_pos h]
    apply IsInt.cast_eq (.inl rfl)
    rintro ⟨lo, hi, -, hwide, hexceeds⟩
    rw [nearest_intCast] at hexceeds
    change hi < n at hexceeds
    omega
  · rw [widened, if_neg h]
    rfl

end Sample

namespace ChannelType

variable {t : ChannelType} {n : Int}

theorem full_pos (t : ChannelType) : (0 : Rat) < t.full := by
  cases t <;> decide +kernel

/-- An integer up to full intensity does not wrap round. -/
theorem not_wraps_of_le_full (hfull : (n : Rat) ≤ t.full) : ¬ t.Wraps (n : Rat) := by
  rintro ⟨lo, hi, ht, -, hexceeds⟩
  rw [Sample.nearest_intCast] at hexceeds
  change hi < n at hexceeds
  rw [full, ht] at hfull
  exact absurd (Int.cast_le.1 hfull) (by omega)

/-- An integer up to full intensity is the same number in the channel. -/
theorem toScalar_cast (hn : 0 ≤ n) (hfull : (n : Rat) ≤ t.full) :
    (t.cast (n : Rat)).toScalar = n := by
  cases ht : t.limits? with
  | some limits =>
    obtain ⟨lo, hi⟩ := limits
    obtain ⟨hlo, -⟩ := zero_mem_limits ht
    have hhi : n ≤ hi := by
      rw [full, ht] at hfull
      exact Int.cast_le.1 hfull
    have hcast := (Sample.IsInt.cast_eq (.inl rfl) (not_wraps_of_le_full hfull)).symm
    rw [hcast, Sample.cast, ht]
    simp only [clampInt_eq_self (Int.le_trans hlo hn) hhi]
    rfl
  | none =>
    have hone : n ≤ 1 := by
      rw [full, ht] at hfull
      exact Int.cast_le.1 hfull
    obtain rfl | rfl : n = 0 ∨ n = 1 := by omega
    all_goals cases t <;> cases ht <;> rfl

end ChannelType

/-! ## What the views have at a pixel -/

namespace View

variable {v : View Rat} {x y : Int}

/-- The transparency of a view at a pixel, zero beside the view. -/
def opacityAt (v : View Rat) (x y : Int) : Rat :=
  if v.box.Holds x y then (v.alphaAt x y).toScalar else 0

/-- The colour of a view at a pixel, in some band. -/
def colorAt (v : View Rat) (x y : Int) (b : Nat) : Rat := (v.pixels.pixelAt v.box x y b).toScalar

/-- No pixel of a view is less than transparent or more than opaque. -/
def AlphaWithin (v : View Rat) (full : Rat) : Prop :=
  ∀ x y, v.box.Holds x y → 0 ≤ (v.alphaAt x y).toScalar ∧ (v.alphaAt x y).toScalar ≤ full

/-- A view of integers that can be blended on a canvas. -/
structure IsBlendable (v : View Rat) (bands : Nat) (full : Rat) : Prop where
  fits : v.Fits bands
  typed : v.IsTyped
  alpha : v.AlphaWithin full

theorem covers_iff : v.Covers x y ↔ 0 < v.opacityAt x y := by
  unfold Covers opacityAt
  split
  case isTrue hxy => exact (and_iff_right hxy).trans Sample.isPositive_iff
  case isFalse hxy => exact iff_of_false (fun h ↦ hxy h.1) (lt_irrefl 0)

instance (v : View Rat) (x y : Int) : Decidable (v.Covers x y) := instDecidableAnd

theorem AlphaWithin.opacityAt {full : Rat} (h : v.AlphaWithin full) (hfull : 0 < full) (x y : Int) :
    0 ≤ v.opacityAt x y ∧ v.opacityAt x y ≤ full := by
  unfold View.opacityAt
  split
  case isTrue hxy => exact h x y hxy
  case isFalse => exact ⟨le_refl 0, le_of_lt hfull⟩

/-- A view that does not cover a pixel has no weight there. -/
theorem AlphaWithin.opacityAt_eq_zero {full : Rat} (h : v.AlphaWithin full) (hfull : 0 < full)
    (hv : ¬ v.Covers x y) : v.opacityAt x y = 0 :=
  le_antisymm (not_lt.1 fun hpos ↦ hv (covers_iff.2 hpos)) (h.opacityAt hfull x y).1

end View

/-- The views that cover a pixel. -/
def covering (views : List (View Rat)) (x y : Int) : List (View Rat) :=
  views.filter fun v ↦ v.Covers x y

/-- The sum of the transparencies of views at a pixel: full intensity times their weights. -/
def opacity (views : List (View Rat)) (x y : Int) : Rat := (views.map (·.opacityAt x y)).sum

/-- The sum of the weighted colours. -/
def weightedColor (views : List (View Rat)) (x y : Int) (b : Nat) : Rat :=
  (views.map fun v ↦ v.opacityAt x y * v.colorAt x y b).sum

/-- The weighted mean of the colours; zero without a weight. -/
def meanColor (views : List (View Rat)) (x y : Int) (b : Nat) : Rat :=
  weightedColor views x y b / opacity views x y

/-- The transparencies at a pixel, with that of the empty canvas. -/
def opacities (views : List (View Rat)) (x y : Int) : Set Rat :=
  {a | a = 0 ∨ ∃ v ∈ views, v.opacityAt x y = a}

section

variable {views views' : List (View Rat)} {v : View Rat} {full : Rat} {x y : Int}

theorem mem_covering : v ∈ covering views x y ↔ v ∈ views ∧ v.Covers x y := by
  rw [covering, List.mem_filter, decide_eq_true_iff]

theorem covering_cons_of_covers (h : v.Covers x y) :
    covering (v :: views) x y = v :: covering views x y :=
  List.filter_cons_of_pos (decide_eq_true h)

theorem covering_cons_of_not_covers (h : ¬ v.Covers x y) :
    covering (v :: views) x y = covering views x y :=
  List.filter_cons_of_neg (by rwa [decide_eq_true_eq])

/-- Sums and sets of the views do not depend on their order. -/
theorem opacity_perm (h : views.Perm views') : opacity views x y = opacity views' x y :=
  (h.map _).sum_eq

theorem meanColor_perm (h : views.Perm views') (b : Nat) :
    meanColor views x y b = meanColor views' x y b := by
  rw [meanColor, meanColor, opacity_perm h, weightedColor, weightedColor, (h.map _).sum_eq]

theorem opacities_perm (h : views.Perm views') : opacities views x y = opacities views' x y := by
  unfold opacities
  simp only [h.mem_iff]

/-- One more view. -/
theorem opacity_concat (v : View Rat) :
    opacity (views ++ [v]) x y = opacity views x y + v.opacityAt x y := by
  rw [opacity, List.map_append, List.sum_append, List.map_singleton, List.sum_singleton, opacity]

theorem weightedColor_concat (v : View Rat) (b : Nat) :
    weightedColor (views ++ [v]) x y b =
      weightedColor views x y b + v.opacityAt x y * v.colorAt x y b := by
  rw [weightedColor, List.map_append, List.sum_append, List.map_singleton, List.sum_singleton,
    weightedColor]

theorem isGreatest_opacities_concat {a : Rat} (h : IsGreatest (opacities views x y) a)
    (v : View Rat) : IsGreatest (opacities (views ++ [v]) x y) (max a (v.opacityAt x y)) := by
  have hset : opacities (views ++ [v]) x y = insert (v.opacityAt x y) (opacities views x y) := by
    ext c
    simp only [opacities, List.mem_append, List.mem_singleton, Set.mem_insert_iff,
      Set.mem_ofPred_eq]
    constructor
    · rintro (rfl | ⟨u, hu | rfl, rfl⟩)
      · exact .inr (.inl rfl)
      · exact .inr (.inr ⟨u, hu, rfl⟩)
      · exact .inl rfl
    · rintro (rfl | rfl | ⟨u, hu, rfl⟩)
      · exact .inr ⟨v, .inr rfl, rfl⟩
      · exact .inl rfl
      · exact .inr ⟨u, .inl hu, rfl⟩
  rw [hset, max_comm]
  exact h.insert (v.opacityAt x y)

/-- The greatest transparency where a view covers the pixel is that of such a view. -/
theorem isGreatest_covering {a : Rat} (ha : IsGreatest (opacities views x y) a)
    (hcovers : covering views x y ≠ []) :
    IsGreatest {a | ∃ v ∈ covering views x y, (v.alphaAt x y).toScalar = a} a := by
  have halphaAt {v : View Rat} (hv : v.Covers x y) :
      v.opacityAt x y = (v.alphaAt x y).toScalar := if_pos hv.1
  obtain ⟨hmem, hupper⟩ := ha
  constructor
  · obtain ⟨u, hu⟩ := List.exists_mem_of_ne_nil _ hcovers
    obtain ⟨hu, hu'⟩ := mem_covering.1 hu
    have hpos : 0 < a :=
      lt_of_lt_of_le (View.covers_iff.1 hu') (hupper (.inr ⟨u, hu, rfl⟩))
    rcases hmem with rfl | ⟨v, hv, rfl⟩
    · exact absurd hpos (lt_irrefl 0)
    · have hv' := View.covers_iff.2 hpos
      exact ⟨v, mem_covering.2 ⟨hv, hv'⟩, (halphaAt hv').symm⟩
  · rintro _ ⟨v, hv, rfl⟩
    obtain ⟨hv, hv'⟩ := mem_covering.1 hv
    exact hupper (.inr ⟨v, hv, halphaAt hv'⟩)

variable (halpha : ∀ v ∈ views, v.AlphaWithin full) (hfull : 0 < full)

include halpha hfull

theorem opacity_nonneg : 0 ≤ opacity views x y := by
  apply List.sum_nonneg
  intro a ha
  obtain ⟨v, hv, rfl⟩ := List.mem_map.1 ha
  exact ((halpha v hv).opacityAt hfull x y).1

theorem mem_opacities {a : Rat} (ha : a ∈ opacities views x y) : 0 ≤ a ∧ a ≤ full := by
  rcases ha with rfl | ⟨v, hv, rfl⟩
  · exact ⟨le_refl 0, le_of_lt hfull⟩
  · exact (halpha v hv).opacityAt hfull x y

/-- A sum of what only views with a weight have is one over the views that cover the pixel. -/
theorem sum_map_covering {f : View Rat → Rat} (hf : ∀ v, v.opacityAt x y = 0 → f v = 0) :
    ((covering views x y).map f).sum = (views.map f).sum := by
  induction views with
  | nil => rfl
  | cons v views ih =>
    obtain ⟨hv, hviews⟩ := List.forall_mem_cons.1 halpha
    rw [List.map_cons, List.sum_cons, ← ih hviews]
    by_cases hcovers : v.Covers x y
    · rw [covering_cons_of_covers hcovers, List.map_cons, List.sum_cons]
    · rw [covering_cons_of_not_covers hcovers, hf v (hv.opacityAt_eq_zero hfull hcovers), zero_add]

theorem opacity_covering : opacity (covering views x y) x y = opacity views x y :=
  sum_map_covering halpha hfull fun _ h ↦ h

theorem meanColor_covering (b : Nat) :
    meanColor (covering views x y) x y b = meanColor views x y b := by
  rw [meanColor, meanColor, opacity_covering halpha hfull, weightedColor, weightedColor,
    sum_map_covering halpha hfull fun v h ↦ by rw [h, zero_mul]]

theorem opacities_covering : opacities (covering views x y) x y = opacities views x y := by
  ext a
  constructor
  · rintro (rfl | ⟨v, hv, rfl⟩)
    · exact .inl rfl
    · exact .inr ⟨v, (mem_covering.1 hv).1, rfl⟩
  · rintro (rfl | ⟨v, hv, rfl⟩)
    · exact .inl rfl
    · by_cases hcovers : v.Covers x y
      · exact .inr ⟨v, mem_covering.2 ⟨hv, hcovers⟩, rfl⟩
      · exact .inl ((halpha v hv).opacityAt_eq_zero hfull hcovers)

/-- The weights sum up to something exactly where a view covers the pixel. -/
theorem opacity_pos_iff : 0 < opacity views x y ↔ covering views x y ≠ [] := by
  rw [← opacity_covering halpha hfull]
  constructor
  · intro hpos hnone
    rw [hnone] at hpos
    exact lt_irrefl 0 hpos
  · intro hcovers
    apply List.sum_pos
    · intro a ha
      obtain ⟨v, hv, rfl⟩ := List.mem_map.1 ha
      exact View.covers_iff.1 (mem_covering.1 hv).2
    · simpa using hcovers

/-- The mean lies between bounds of the colours of the views that cover the pixel. -/
theorem meanColor_mem (hpos : 0 < opacity views x y) {b : Nat} {least greatest : Rat}
    (hbounds : ∀ v ∈ covering views x y, least ≤ v.colorAt x y b ∧ v.colorAt x y b ≤ greatest) :
    least ≤ meanColor (covering views x y) x y b ∧
      meanColor (covering views x y) x y b ≤ greatest := by
  rw [← opacity_covering halpha hfull] at hpos
  have hweight (v : View Rat) (hv : v ∈ covering views x y) :
      v.opacityAt x y * least ≤ v.opacityAt x y * v.colorAt x y b ∧
        v.opacityAt x y * v.colorAt x y b ≤ v.opacityAt x y * greatest := by
    obtain ⟨hleast, hgreatest⟩ := hbounds v hv
    have hnonneg := le_of_lt (View.covers_iff.1 (mem_covering.1 hv).2)
    exact ⟨mul_le_mul_of_nonneg_left hleast hnonneg, mul_le_mul_of_nonneg_left hgreatest hnonneg⟩
  constructor
  · rw [meanColor, le_div_iff₀ hpos, mul_comm, opacity, ← List.sum_map_mul_right]
    exact List.sum_le_sum fun v hv ↦ (hweight v hv).1
  · rw [meanColor, div_le_iff₀ hpos, mul_comm, opacity, ← List.sum_map_mul_right]
    exact List.sum_le_sum fun v hv ↦ (hweight v hv).2

/-! ## Where at most one view covers the pixel -/

theorem meanColor_of_none (hnone : covering views x y = []) (b : Nat) :
    meanColor views x y b = 0 := by
  rw [← meanColor_covering halpha hfull, hnone]
  exact div_zero _

theorem isGreatest_of_none (hnone : covering views x y = []) :
    IsGreatest (opacities views x y) 0 := by
  rw [← opacities_covering halpha hfull, hnone]
  refine ⟨.inl rfl, ?_⟩
  rintro _ (rfl | ⟨_, hu, -⟩)
  · exact le_refl 0
  · cases hu

theorem meanColor_of_single (hv : covering views x y = [v]) (b : Nat) :
    meanColor views x y b = v.colorAt x y b := by
  have hcovers : v.Covers x y := (mem_covering.1 (hv ▸ List.mem_singleton_self v)).2
  rw [← meanColor_covering halpha hfull, hv, meanColor, weightedColor, opacity, List.map_singleton,
    List.map_singleton, List.sum_singleton, List.sum_singleton]
  exact mul_div_cancel_left₀ _ (ne_of_gt (View.covers_iff.1 hcovers))

theorem isGreatest_of_single (hv : covering views x y = [v]) :
    IsGreatest (opacities views x y) (v.opacityAt x y) := by
  have hcovers : v.Covers x y := (mem_covering.1 (hv ▸ List.mem_singleton_self v)).2
  rw [← opacities_covering halpha hfull, hv]
  refine ⟨.inr ⟨v, List.mem_singleton_self v, rfl⟩, ?_⟩
  rintro _ (rfl | ⟨u, hu, rfl⟩)
  · exact le_of_lt (View.covers_iff.1 hcovers)
  · obtain rfl := List.mem_singleton.1 hu
    exact le_refl _

end

/-! ## What is gathered at a pixel -/

/-- What views leave at a pixel when they are blended. -/
structure Cell.Blends (cell : Cell Rat) (bands : Nat) (full : Rat) (views : List (View Rat))
    (x y : Int) : Prop where
  weight : cell.weight = opacity views x y / full
  color : ∀ b, b + 1 < bands → (cell.sample b).toScalar = weightedColor views x y b / full
  alpha : ∃ k : Int, (cell.sample (bands - 1)).IsInt k ∧ IsGreatest (opacities views x y) k

namespace Cell

variable {cell : Cell Rat} {bands : Nat} {full : Rat} {views : List (View Rat)} {x y : Int}
  {t : ChannelType} {v : View Rat}

theorem blends_blank (bands : Nat) (full : Rat) (x y : Int) :
    (blank : Cell Rat).Blends bands full [] x y where
  weight := (zero_div full).symm
  color _ _ := (zero_div full).symm
  alpha := by
    refine ⟨0, .inl rfl, .inl rfl, ?_⟩
    rintro _ (rfl | ⟨_, hv, -⟩)
    · exact le_refl _
    · cases hv

/-- One more view adds its weight and its weighted colours, and may raise the transparency. -/
theorem Blends.layAt (h : cell.Blends bands t.full views x y) (hbands : 0 < bands)
    (hv : v.IsBlendable bands t.full) :
    (v.layAt false t x y cell).Blends bands t.full (views ++ [v]) x y := by
  obtain ⟨hweight, hcolor, k, hk, hgreatest⟩ := h
  by_cases hxy : v.box.Holds x y
  case neg =>
    have hzero : v.opacityAt x y = 0 := if_neg hxy
    rw [View.layAt, if_neg hxy]
    constructor
    case weight => rw [opacity_concat, hzero, add_zero, hweight]
    case color =>
      intro b hb
      rw [weightedColor_concat, hzero, zero_mul, add_zero, hcolor b hb]
    case alpha =>
      refine ⟨k, hk, ?_⟩
      have := isGreatest_opacities_concat hgreatest v
      rwa [hzero, max_eq_left (hgreatest.2 (.inl rfl))] at this
  case pos =>
    have hfitbands : v.pixels.bands = bands := Int.ofNat.inj hv.fits.bands
    have hlast : v.pixels.bands = (bands - 1) + 1 := by omega
    obtain ⟨n, hn⟩ := hv.typed.alphaAt hv.fits.box hlast hxy
    have hopacity : v.opacityAt x y = (v.alphaAt x y).toScalar := if_pos hxy
    have hshare : weightOf t.full v.pixels.bands
        (fun b ↦ (v.pixels.pixelAt v.box x y b).widened) = v.opacityAt x y / t.full := by
      rw [hopacity, View.alphaAt, ← Sample.toScalar_widened]
      rfl
    rw [View.layAt, if_pos hxy, Cell.lay, if_neg (by decide), mix, hshare]
    constructor
    case weight => rw [opacity_concat, add_div, ← hweight]
    case color =>
      intro b hb
      dsimp only
      rw [hfitbands, if_pos hb, Sample.toScalar_widened, weightedColor_concat, add_div,
        ← hcolor b hb, mul_comm (v.opacityAt x y), mul_div_assoc]
      rfl
    case alpha =>
      dsimp only
      rw [hfitbands, if_neg (by omega)]
      have hsource : (v.pixels.pixelAt v.box x y (bands - 1)).widened.IsInt n := by
        rw [View.alphaAt, hfitbands] at hn
        rw [hn]
        exact Sample.isInt_widened n
      refine ⟨max k n, hk.join_rat hsource, ?_⟩
      have hint : v.opacityAt x y = n := by rw [hopacity, hn]; rfl
      rw [Int.cast_max, ← hint]
      exact isGreatest_opacities_concat hgreatest v

/-- All views together. -/
theorem blends_foldl (hbands : 0 < bands) (hviews : ∀ v ∈ views, v.IsBlendable bands t.full) :
    (views.foldl (fun cell v ↦ v.layAt false t x y cell) blank).Blends bands t.full views x y := by
  induction views using List.reverseRecOn with
  | nil => exact blends_blank bands t.full x y
  | append_singleton views v ih =>
    rw [List.foldl_concat]
    exact (ih fun u hu ↦ hviews u (List.mem_append_left _ hu)).layAt hbands
      (hviews v (List.mem_append_right _ (List.mem_singleton_self v)))

section

variable (h : cell.Blends bands t.full views x y) (halpha : ∀ v ∈ views, v.AlphaWithin t.full)

include h halpha

theorem Blends.mean {b : Nat} (hb : b + 1 < bands) : cell.mean b = meanColor views x y b := by
  have hfull := ChannelType.full_pos t
  unfold Cell.mean
  rw [h.weight, h.color b hb]
  split
  case isTrue =>
    exact div_div_div_cancel_right₀ (ne_of_gt hfull) _ _
  case isFalse hweight =>
    have hzero : opacity views x y = 0 := by
      refine le_antisymm (not_lt.1 fun hpos ↦ hweight ?_) (opacity_nonneg halpha hfull)
      exact decide_eq_true (div_pos hpos hfull)
    rw [meanColor, hzero, div_zero]
    rfl

/-- The colours are the weighted means, and the transparency is the greatest one. -/
theorem Blends.settle : ∃ a, IsGreatest (opacities views x y) a ∧ (t.cast a).toScalar = a ∧
    ∀ b < bands, cell.settle false t bands b =
      t.cast (if b + 1 < bands then meanColor views x y b else a) := by
  obtain ⟨k, hk, hgreatest⟩ := h.alpha
  obtain ⟨hnonneg, hle⟩ := mem_opacities halpha (ChannelType.full_pos t) hgreatest.1
  refine ⟨k, hgreatest, ChannelType.toScalar_cast (Int.cast_nonneg_iff.1 hnonneg) hle, ?_⟩
  intro b hb
  by_cases hcolor : b + 1 < bands
  · rw [Cell.settle, if_pos (by simpa using hcolor), if_pos hcolor, h.mean halpha hcolor]
  · obtain rfl : b = bands - 1 := by omega
    rw [Cell.settle, if_neg (by simpa using hcolor), if_neg hcolor]
    exact hk.cast_eq (ChannelType.not_wraps_of_le_full hle)

end

end Cell

/-! ## Reading -/

/-- What is shown at a pixel that some views cover. -/
structure ShowsMean (r : Raster Rat) (channel : ChannelType) (views : List (View Rat))
    (window : PixelBox) (x y : Int) : Prop where
  /-- The colours are weighted means, cast to the channel. -/
  color : ∀ b, b + 1 < r.bands →
    r.pixelAt window x y b = channel.cast (meanColor views x y b)
  /-- A mean lies between all bounds of the colours. -/
  between : ∀ b least greatest,
    (∀ v ∈ views, least ≤ v.colorAt x y b ∧ v.colorAt x y b ≤ greatest) →
    least ≤ meanColor views x y b ∧ meanColor views x y b ≤ greatest
  /-- The transparency is the greatest one. -/
  alpha : IsGreatest {a | ∃ v ∈ views, (v.alphaAt x y).toScalar = a}
    (r.pixelAt window x y (r.bands - 1)).toScalar

/-- Two rasters of one size show the same at some pixels of a window. -/
structure AgreeAt (r r' : Raster Rat) (window : PixelBox) (p : Int → Int → Prop) : Prop where
  bands : r.bands = r'.bands
  rows : r.rows = r'.rows
  cols : r.cols = r'.cols
  pixel : ∀ x y, window.Holds x y → p x y → ∀ b < r.bands,
    r.pixelAt window x y b = r'.pixelAt window x y b

namespace Canvas

variable {c : Canvas Rat} {window : PixelBox} {r : Raster Rat} {x y : Int}

/-- What a blended canvas shows at a pixel. -/
theorem Reads.pixel_of_blended (h : c.Reads window r) (hdraft : c.draft = false)
    (hbands : 0 < r.bands) (hviews : ∀ v ∈ c.views, v.IsBlendable r.bands c.channel.full)
    (hxy : window.Holds x y) :
    ∃ a, IsGreatest (opacities c.views x y) a ∧ (c.channel.cast a).toScalar = a ∧
      ∀ b < r.bands, r.pixelAt window x y b =
        c.channel.cast (if b + 1 < r.bands then meanColor c.views x y b else a) := by
  have hcell := Cell.blends_foldl (x := x) (y := y) (t := c.channel) hbands hviews
  obtain ⟨a, ha, hcast, hpixel⟩ := hcell.settle fun v hv ↦ (hviews v hv).alpha
  refine ⟨a, ha, hcast, ?_⟩
  intro b hb
  rw [← hpixel b hb, h.pixel x y b hxy, cellAt, hdraft, ← h.bands]

/-- In draft mode the colour of the one view that covers a pixel is cast as it is. -/
theorem Reads.pixel_of_draft_single (h : c.Reads window r) (hdraft : c.draft = true)
    (hxy : window.Holds x y) {v : View Rat} (hv : covering c.views x y = [v])
    (hfits : v.Fits r.bands) (htyped : v.IsTyped) {b : Nat} (hb : b < r.bands) :
    r.pixelAt window x y b = c.channel.cast (v.colorAt x y b) := by
  obtain ⟨earlier, later, hsplit, -, hcovers, hlater⟩ := List.filter_eq_cons_iff.1 hv
  have hcovers := of_decide_eq_true hcovers
  have hlater (u : View Rat) (hu : u ∈ later) : ¬ u.Covers x y := fun hu' ↦
    List.filter_eq_nil_iff.1 hlater u hu (decide_eq_true hu')
  obtain ⟨t, lo, hi, -, hwhole⟩ := htyped
  have hbands : v.pixels.bands = r.bands := Int.ofNat.inj hfits.bands
  obtain ⟨n, hn, -⟩ := hwhole.pixelAt hfits.box hcovers.1 (b := b) (by omega)
  rw [h.pixel_of_draft hdraft hxy, cellAt_of_last hdraft hsplit hcovers hlater, View.colorAt, hn]
  exact Sample.cast_widened_rat n c.channel

/-- Where no view covers a pixel, it is empty in draft mode. -/
theorem Reads.pixel_of_draft_none (h : c.Reads window r) (hdraft : c.draft = true)
    (hxy : window.Holds x y) (hnone : covering c.views x y = []) (b : Nat) :
    r.pixelAt window x y b = c.channel.cast (0 : Rat) := by
  rw [h.pixel_of_draft hdraft hxy, cellAt_of_none hdraft fun v hv hcovers ↦
    List.filter_eq_nil_iff.1 hnone v hv (decide_eq_true hcovers)]
  exact Sample.cast_widened_rat 0 c.channel

section

variable (h : c.Reads window r) (hdraft : c.draft = false) (hbands : 0 < r.bands)
  (hviews : ∀ v ∈ c.views, v.IsBlendable r.bands c.channel.full) (hxy : window.Holds x y)

include h hdraft hbands hviews hxy

theorem Reads.showsMean (hpos : 0 < opacity c.views x y) :
    ShowsMean r c.channel (covering c.views x y) window x y := by
  have halpha (v : View Rat) (hv : v ∈ c.views) := (hviews v hv).alpha
  have hfull := ChannelType.full_pos c.channel
  obtain ⟨a, ha, hcast, hpixel⟩ := h.pixel_of_blended hdraft hbands hviews hxy
  constructor
  case color =>
    intro b hb
    rw [hpixel b (by omega), if_pos hb, meanColor_covering halpha hfull]
  case between => exact fun b least greatest ↦ meanColor_mem halpha hfull hpos
  case alpha =>
    rw [hpixel _ (by omega), if_neg (by omega), hcast]
    exact isGreatest_covering ha ((opacity_pos_iff halpha hfull).1 hpos)

/-- Where no view covers a pixel, it is empty. -/
theorem Reads.pixel_of_blended_none (hnone : covering c.views x y = []) {b : Nat}
    (hb : b < r.bands) : r.pixelAt window x y b = c.channel.cast (0 : Rat) := by
  have halpha (v : View Rat) (hv : v ∈ c.views) := (hviews v hv).alpha
  have hfull := ChannelType.full_pos c.channel
  obtain ⟨a, ha, -, hpixel⟩ := h.pixel_of_blended hdraft hbands hviews hxy
  rw [hpixel b hb, ha.unique (isGreatest_of_none halpha hfull hnone),
    meanColor_of_none halpha hfull hnone, ite_self]

/-- Where one view covers a pixel, its colour is cast as it is. -/
theorem Reads.pixel_of_blended_single {v : View Rat} (hv : covering c.views x y = [v]) {b : Nat}
    (hb : b < r.bands) : r.pixelAt window x y b = c.channel.cast (v.colorAt x y b) := by
  have halpha (v : View Rat) (hv : v ∈ c.views) := (hviews v hv).alpha
  have hfull := ChannelType.full_pos c.channel
  obtain ⟨hmem, hcovers⟩ := mem_covering.1 (hv ▸ List.mem_singleton_self v)
  obtain ⟨a, ha, -, hpixel⟩ := h.pixel_of_blended hdraft hbands hviews hxy
  rw [hpixel b hb, meanColor_of_single halpha hfull hv]
  split
  case isTrue => rfl
  case isFalse hlast =>
    have hlast : v.pixels.bands - 1 = b := by
      have := (hviews v hmem).fits.bands
      omega
    rw [ha.unique (isGreatest_of_single halpha hfull hv), View.opacityAt, if_pos hcovers.1,
      View.alphaAt, View.colorAt, hlast]

/-- Views in another order show the same. -/
theorem Reads.pixel_of_perm {c' : Canvas Rat} {r' : Raster Rat} (h' : c'.Reads window r')
    (hdraft' : c'.draft = false) (hsame : r.bands = r'.bands) (hchannel : c'.channel = c.channel)
    (hperm : c.views.Perm c'.views) {b : Nat} (hb : b < r.bands) :
    r.pixelAt window x y b = r'.pixelAt window x y b := by
  obtain ⟨a, ha, -, hpixel⟩ := h.pixel_of_blended hdraft hbands hviews hxy
  obtain ⟨a', ha', -, hpixel'⟩ := h'.pixel_of_blended hdraft' (hsame ▸ hbands)
    (fun v hv ↦ by rw [← hsame, hchannel]; exact hviews v (hperm.mem_iff.2 hv)) hxy
  rw [opacities_perm hperm] at ha
  rw [hpixel b hb, hpixel' b (hsame ▸ hb), hchannel, ha.unique ha', meanColor_perm hperm, hsame]

end

/-- A canvas of integers that is blended shows, over the rationals, a weighted mean that does not
depend on the order of the views, and where at most one view covers a pixel what draft mode shows.

Where the weights sum up to something, which is where some view covers the pixel, each colour is the
mean of the colours of the covering views weighted by their transparency, cast to the channel, and
the transparency is their greatest one.  Elsewhere all bands are zero. -/
theorem read_blended {bands : Int} {channel : ChannelType} {views : List (View Rat)}
    {filled c : Canvas Rat} {extent : PixelBox} (hbands : 1 ≤ bands)
    (hfilled : Filled bands channel views filled) (hprepare : filled.prepare extent false = .ok c)
    (htyped : ∀ v ∈ views, v.IsTyped) (halpha : ∀ v ∈ views, v.AlphaWithin channel.full)
    (window : PixelBox) :
    ∃ r, c.read window = .ok r ∧
      (r.bands = bands ∧ r.rows = window.height ∧ r.cols = window.width) ∧
      (∀ views' filled' extent' c', views.Perm views' → Filled bands channel views' filled' →
        filled'.prepare extent' false = .ok c' →
        ∃ r', c'.read window = .ok r' ∧ AgreeAt r r' window fun _ _ ↦ True) ∧
      (∀ x y, window.Holds x y →
        (0 < opacity views x y ↔ ∃ v ∈ views, v.Covers x y) ∧
        (0 < opacity views x y → ShowsMean r channel (covering views x y) window x y) ∧
        ((∀ v ∈ views, ¬ v.Covers x y) → ∀ b < r.bands, (r.pixelAt window x y b).toScalar = 0)) ∧
      ∀ extent' d, filled.prepare extent' true = .ok d →
        ∃ s, d.read window = .ok s ∧
          AgreeAt r s window fun x y ↦ (covering views x y).length ≤ 1 := by
  obtain ⟨hsound, rfl, rfl, rfl, hextent, hdraft⟩ := hfilled.prepare hprepare
  obtain ⟨r, hread, hr⟩ : ∃ r, c.read window = .ok r ∧ c.Reads window r :=
    read_eq_ok hsound hextent (by omega) fun hz ↦ absurd hz (by omega)
  have hsize := hr.size (by omega)
  have hpos : 0 < r.bands := by omega
  have hviews (v : View Rat) (hv : v ∈ c.views) : v.IsBlendable r.bands c.channel.full :=
    ⟨by rw [hsize.1]; exact hsound.fits v hv, htyped v hv, halpha v hv⟩
  refine ⟨r, hread, hsize, ?perm, ?pixels, ?draft⟩
  case perm =>
    intro views' filled' extent' c' hperm hfilled' hprepare'
    obtain ⟨hsound', hbands', hchannel', rfl, hextent', hdraft'⟩ := hfilled'.prepare hprepare'
    obtain ⟨r', hread', hr'⟩ : ∃ r', c'.read window = .ok r' ∧ c'.Reads window r' :=
      read_eq_ok hsound' hextent' (by omega) fun hz ↦ absurd hz (by omega)
    have hsame : r.bands = r'.bands := by rw [hr.bands, hr'.bands, hbands']
    refine ⟨r', hread', hsame, hr.rows.trans hr'.rows.symm, hr.cols.trans hr'.cols.symm, ?_⟩
    intro x y hxy _ b hb
    exact hr.pixel_of_perm hdraft hpos hviews hxy hr' hdraft' hsame hchannel' hperm hb
  case pixels =>
    intro x y hxy
    have hnone : covering c.views x y = [] ↔ ∀ v ∈ c.views, ¬ v.Covers x y := by
      rw [covering, List.filter_eq_nil_iff]
      simp only [decide_eq_true_eq]
    refine ⟨?_, hr.showsMean hdraft hpos hviews hxy, ?_⟩
    · rw [opacity_pos_iff halpha (ChannelType.full_pos _), Ne, hnone]
      simp only [not_forall, not_not, exists_prop]
    intro hclear b hb
    rw [hr.pixel_of_blended_none hdraft hpos hviews hxy (hnone.2 hclear) hb]
    exact ChannelType.toScalar_cast (le_refl 0) (le_of_lt (ChannelType.full_pos _))
  case draft =>
    intro extent' d hprepare'
    obtain ⟨hsound', hbands', hchannel', hviews', hextent', hdraft'⟩ := hfilled.prepare hprepare'
    obtain ⟨s, hread', hs⟩ : ∃ s, d.read window = .ok s ∧ d.Reads window s :=
      read_eq_ok hsound' hextent' (by omega) fun hz ↦ absurd hz (by omega)
    have hsame : r.bands = s.bands := by rw [hr.bands, hs.bands, hbands']
    refine ⟨s, hread', hsame, hr.rows.trans hs.rows.symm, hr.cols.trans hs.cols.symm, ?_⟩
    intro x y hxy hone b hb
    rcases hcovering : covering c.views x y with _ | ⟨v, _ | _⟩
    · rw [hr.pixel_of_blended_none hdraft hpos hviews hxy hcovering hb,
        hs.pixel_of_draft_none hdraft' hxy (hviews' ▸ hcovering), hchannel']
    · have hv := hviews v (mem_covering.1 (hcovering ▸ List.mem_singleton_self v)).1
      rw [hr.pixel_of_blended_single hdraft hpos hviews hxy hcovering hb,
        hs.pixel_of_draft_single hdraft' hxy (hviews' ▸ hcovering) (hsame ▸ hv.fits) hv.typed
          (hsame ▸ hb), hchannel']
    · rw [hcovering] at hone
      exact absurd hone (by simp)

/-- Two views of bytes that share a pixel: their weighted mean there, and the same as in draft mode
beside it. -/
theorem read_blended_of_two_views :
    ∃ (filled c d : Canvas Rat) (r s : Raster Rat),
      Filled 2 .uint8 [View.flat 2 2 2 (-1) (-1) 200, View.flat 2 1 1 0 0 100] filled ∧
      filled.prepare ⟨-1, -1, 1, 1⟩ false = .ok c ∧ c.read ⟨-1, -1, 1, 1⟩ = .ok r ∧
      filled.prepare ⟨-1, -1, 1, 1⟩ true = .ok d ∧ d.read ⟨-1, -1, 1, 1⟩ = .ok s ∧
      r.pixelAt ⟨-1, -1, 1, 1⟩ 0 0 0 = .whole 167 ∧
      r.pixelAt ⟨-1, -1, 1, 1⟩ (-1) 0 0 = s.pixelAt ⟨-1, -1, 1, 1⟩ (-1) 0 0 := by
  obtain ⟨filled, hfilled⟩ : ∃ filled : Canvas Rat, Filled 2 .uint8
      [View.flat 2 2 2 (-1) (-1) 200, View.flat 2 1 1 0 0 100] filled :=
    ⟨_, .insert ⟨[2, 1, 1], fun _ ↦ .whole 100⟩ 0 0 ""
      (.insert ⟨[2, 2, 2], fun _ ↦ .whole 200⟩ (-1) (-1) "" .new rfl) rfl⟩
  have hprepare (draft : Bool) : ∃ c, filled.prepare ⟨-1, -1, 1, 1⟩ draft = .ok c :=
    ⟨_, if_neg (by rw [hfilled.fields.2.2.2]; decide)⟩
  obtain ⟨c, hc⟩ := hprepare false
  obtain ⟨d, hd⟩ := hprepare true
  have hflat (n : Int) (hn : 0 ≤ n) (hn' : n ≤ 255) (rows cols : Nat) (x y : Int) :
      (View.flat 2 rows cols x y n : View Rat).IsTyped ∧
        (View.flat 2 rows cols x y n).AlphaWithin (ChannelType.full .uint8) :=
    ⟨⟨.uint8, 0, 255, rfl, fun _ _ _ _ _ _ ↦ ⟨n, rfl, hn, hn'⟩⟩,
      fun _ _ _ ↦ ⟨Int.cast_nonneg hn, Int.cast_le.2 hn'⟩⟩
  have hviews : ∀ v ∈ ([View.flat 2 2 2 (-1) (-1) 200, View.flat 2 1 1 0 0 100] :
      List (View Rat)), v.IsTyped ∧ v.AlphaWithin (ChannelType.full .uint8) := by
    intro v hv
    simp only [List.mem_cons, List.not_mem_nil, or_false] at hv
    rcases hv with rfl | rfl
    · exact hflat 200 (by decide) (by decide) 2 2 (-1) (-1)
    · exact hflat 100 (by decide) (by decide) 1 1 0 0
  obtain ⟨r, hr, ⟨hbands, -⟩, -, hpixels, hdraft⟩ := read_blended (by decide) hfilled hc
    (fun v hv ↦ (hviews v hv).1) (fun v hv ↦ (hviews v hv).2) ⟨-1, -1, 1, 1⟩
  obtain ⟨s, hs, hagree⟩ := hdraft ⟨-1, -1, 1, 1⟩ d hd
  have hmean := (hpixels 0 0 (by decide)).2.1 (by decide +kernel)
  refine ⟨filled, c, d, r, s, hfilled, hc, hr, hd, hs, ?_, ?_⟩
  · rw [hmean.color 0 (by omega)]
    decide +kernel
  · exact hagree.pixel (-1) 0 (by decide) (by decide +kernel) 0 (by omega)

end Canvas

end QuadMosaic
