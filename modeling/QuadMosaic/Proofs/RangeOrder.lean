import Mathlib
import QuadMosaic.Proofs.Comparison
import QuadMosaic.Proofs.Normalise

/-!
# The order of sources in the first pass

The first pass of normalising merges the ranges of the sources from the first on.  Merging keeps an
end of the range so far unless that of the next source lies further out, so an end that is no number
is kept when it comes first and passed over when it comes later.  Within one source it is different:
a single value that is no number makes both ends none, wherever it stands.

So the order of the sources matters exactly when some source has such a value among its data while
another one has data without.  Ranges count as the same when their ends are equal numbers, whatever
the sign of a zero, or are no numbers alike.
-/

namespace QuadMosaic

variable {α : Type} [Scalar α]

/-! ## The outermost of some values -/

namespace Scalar

/-- Two values are equal numbers, or neither is a number. -/
def Alike (x y : α) : Prop := eq x y = true ∨ isNaN x = true ∧ isNaN y = true

instance instDecidableAlike (x y : α) : Decidable (Alike x y) :=
  inferInstanceAs (Decidable (_ ∨ _))

/-- The first value, unless the second stands before it. -/
def pick (before : α → α → Bool) (x y : α) : α := if before y x then y else x

omit [Scalar α] in
theorem pick_eq_or (before : α → α → Bool) (x y : α) :
    pick before x y = x ∨ pick before x y = y := by
  unfold pick
  split
  · exact .inr rfl
  · exact .inl rfl

omit [Scalar α] in
theorem foldl_mem (before : α → α → Bool) (x : α) (l : List α) :
    l.foldl (pick before) x ∈ x :: l := by
  induction l generalizing x with
  | nil => exact List.mem_cons_self
  | cons y l ih =>
    rw [List.foldl_cons]
    rcases List.mem_cons.1 (ih (pick before x y)) with hfirst | hrest
    · rw [hfirst]
      rcases pick_eq_or before x y with h | h <;> simp [h]
    · exact List.mem_cons_of_mem x (List.mem_cons_of_mem y hrest)

/-- An order of the numbers, in which what is no number has no place. -/
structure Orders (before : α → α → Bool) : Prop where
  isNaN_of_before {x y : α} : before x y = true → ¬ isNaN x = true ∧ ¬ isNaN y = true
  asymm {x y : α} : before x y = true → ¬ before y x = true
  before_or_before {x y z : α} : before x z = true → ¬ isNaN y = true →
    before x y = true ∨ before y z = true
  alike_iff {x y : α} :
    Alike x y ↔ isNaN x = isNaN y ∧ ¬ before x y = true ∧ ¬ before y x = true

theorem orders_lt [OrderedScalar α] : Orders (lt : α → α → Bool) where
  isNaN_of_before := OrderedScalar.isNaN_of_lt
  asymm := OrderedScalar.lt_asymm
  before_or_before := OrderedScalar.lt_or_lt
  alike_iff {x y} := by
    have hnone (h : isNaN x = true) : ¬ lt x y = true ∧ ¬ lt y x = true :=
      ⟨fun hlt ↦ (OrderedScalar.isNaN_of_lt hlt).1 h, fun hlt ↦ (OrderedScalar.isNaN_of_lt hlt).2 h⟩
    rw [Alike, OrderedScalar.eq_iff]
    cases hx : isNaN x <;> cases hy : isNaN y <;> simp_all

theorem orders_gt [OrderedScalar α] : Orders fun x y : α ↦ lt y x where
  isNaN_of_before h := (OrderedScalar.isNaN_of_lt h).symm
  asymm := OrderedScalar.lt_asymm
  before_or_before h hy := (OrderedScalar.lt_or_lt h hy).symm
  alike_iff := orders_lt.alike_iff.trans (and_congr_right' and_comm)

namespace Orders

variable {before : α → α → Bool} {x y z : α} {l : List α}

theorem irrefl (h : Orders before) (x : α) : ¬ before x x = true := fun hxx ↦ h.asymm hxx hxx

theorem trans (h : Orders before) (hxy : before x y = true) (hyz : before y z = true) :
    before x z = true :=
  (h.before_or_before hxy (h.isNaN_of_before hyz).2).resolve_right (h.asymm hyz)

theorem isNaN_pick (h : Orders before) (x y : α) : isNaN (pick before x y) = isNaN x := by
  unfold pick
  split
  case isTrue hyx =>
    obtain ⟨hy, hx⟩ := h.isNaN_of_before hyx
    rw [Bool.eq_false_iff.2 hy, Bool.eq_false_iff.2 hx]
  case isFalse => rfl

/-- Picking is associative, unless the value in the middle is no number and hides that the last
one stands before the first. -/
theorem pick_pick (h : Orders before) (hxy : isNaN y = true → isNaN x = true) :
    pick before (pick before x y) z = pick before x (pick before y z) := by
  unfold pick
  by_cases hyx : before y x = true <;> by_cases hzy : before z y = true
  · simp only [hyx, hzy, h.trans hzy hyx, if_true]
  · simp only [hyx, hzy, if_true, if_false, Bool.false_eq_true]
  · simp only [hyx, hzy, if_true, if_false, Bool.false_eq_true]
  · have hzx : ¬ before z x = true := fun hzx ↦ by
      by_cases hy : isNaN y = true
      · exact (h.isNaN_of_before hzx).2 (hxy hy)
      · exact (h.before_or_before hzx hy).elim hzy hyx
    simp only [hyx, hzy, hzx, if_false, Bool.false_eq_true]

/-- Whether a value is picked that is no number is up to the first one. -/
theorem isNaN_foldl (h : Orders before) (x : α) (l : List α) :
    isNaN (l.foldl (pick before) x) = isNaN x := by
  induction l generalizing x with
  | nil => rfl
  | cons y l ih => exact (ih (pick before x y)).trans (h.isNaN_pick x y)

theorem not_before_pick (h : Orders before) (x y : α) :
    ¬ before x (pick before x y) = true ∧ ¬ before y (pick before x y) = true := by
  unfold pick
  split
  case isTrue hyx => exact ⟨h.asymm hyx, h.irrefl y⟩
  case isFalse hyx => exact ⟨h.irrefl x, hyx⟩

/-- No value stands before the one that is picked. -/
theorem not_before_foldl (h : Orders before) (hy : y ∈ x :: l) :
    ¬ before y (l.foldl (pick before) x) = true := by
  induction l generalizing x y with
  | nil =>
    obtain rfl := List.mem_singleton.1 hy
    exact h.irrefl y
  | cons z l ih =>
    rw [List.foldl_cons]
    have hfirst := ih (x := pick before x z) List.mem_cons_self
    -- nothing that the first step passed over stands before what it picked, hence before the end
    have hpassed (hpick : ¬ before y (pick before x z) = true) :
        ¬ before y (l.foldl (pick before) (pick before x z)) = true := fun hbefore ↦ by
      have hnumber := (h.isNaN_of_before hbefore).2
      rw [h.isNaN_foldl] at hnumber
      exact (h.before_or_before hbefore hnumber).elim hpick hfirst
    rcases List.mem_cons.1 hy with rfl | hy
    · exact hpassed (h.not_before_pick y z).1
    · rcases List.mem_cons.1 hy with rfl | hy
      · exact hpassed (h.not_before_pick x y).2
      · exact ih (List.mem_cons_of_mem _ hy)

/-- What is picked does not depend on the order of the values, but for the first one being a number
or not. -/
theorem alike_foldl_iff (h : Orders before) {x' : α} {l' : List α}
    (hperm : (x :: l).Perm (x' :: l')) :
    Alike (l.foldl (pick before) x) (l'.foldl (pick before) x') ↔ isNaN x = isNaN x' := by
  rw [h.alike_iff, h.isNaN_foldl, h.isNaN_foldl]
  refine and_iff_left ⟨h.not_before_foldl ?_, h.not_before_foldl ?_⟩
  · exact hperm.subset (foldl_mem before x l)
  · exact hperm.symm.subset (foldl_mem before x' l')

end Orders

end Scalar

/-! ## Ranges -/

namespace PixelRange

open Scalar

variable {r s t : PixelRange α}

/-- Two ranges have the same ends. -/
def Alike (r s : PixelRange α) : Prop := Scalar.Alike r.lo s.lo ∧ Scalar.Alike r.hi s.hi

instance instDecidableAlike (r s : PixelRange α) : Decidable (r.Alike s) :=
  inferInstanceAs (Decidable (_ ∧ _))

/-- Two ranges have a number at the same ends. -/
def AgreeOnNaN (r s : PixelRange α) : Prop :=
  isNaN r.lo = isNaN s.lo ∧ isNaN r.hi = isNaN s.hi

/-- Merging picks the lower ends and the upper ends apart. -/
theorem foldl_merge (r : PixelRange α) (l : List (PixelRange α)) :
    l.foldl merge r = ⟨(l.map lo).foldl (pick lt) r.lo,
      (l.map hi).foldl (pick fun x y ↦ lt y x) r.hi⟩ := by
  induction l generalizing r with
  | nil => rfl
  | cons s l ih => exact ih (r.merge s)

variable [OrderedScalar α]

theorem foldl_merge_agreeOnNaN (r : PixelRange α) (l : List (PixelRange α)) :
    (l.foldl merge r).AgreeOnNaN r := by
  rw [foldl_merge]
  exact ⟨orders_lt.isNaN_foldl r.lo _, orders_gt.isNaN_foldl r.hi _⟩

/-- Merging ranges in two orders gives the same range exactly when both begin with ranges that have
a number at the same ends. -/
theorem alike_foldl_merge_iff {l l' : List (PixelRange α)} (hperm : (r :: l).Perm (s :: l')) :
    (l.foldl merge r).Alike (l'.foldl merge s) ↔ r.AgreeOnNaN s := by
  rw [foldl_merge, foldl_merge]
  exact and_congr (orders_lt.alike_foldl_iff (hperm.map lo))
    (orders_gt.alike_foldl_iff (hperm.map hi))

theorem alike_merge_comm_iff (r s : PixelRange α) :
    (r.merge s).Alike (s.merge r) ↔ r.AgreeOnNaN s := by
  have hswap : [r, s].Perm [s, r] := .swap s r []
  exact alike_foldl_merge_iff hswap

theorem merge_merge (hlo : isNaN s.lo = true → isNaN r.lo = true)
    (hhi : isNaN s.hi = true → isNaN r.hi = true) :
    (r.merge s).merge t = r.merge (s.merge t) :=
  congrArg₂ mk (orders_lt.pick_pick hlo) (orders_gt.pick_pick hhi)

/-- Merged in any order, ranges that all have a number at the same ends give the same range. -/
theorem alike_mergeAll {found found' : List (Option (PixelRange α))} (hperm : found.Perm found')
    (h : ∀ r s, some r ∈ found → some s ∈ found → r.AgreeOnNaN s) :
    Option.Rel Alike (mergeAll? found) (mergeAll? found') := by
  have hperm' : (found.filterMap id).Perm (found'.filterMap id) := hperm.filterMap id
  have hmem {r : PixelRange α} (hr : r ∈ found.filterMap id) : some r ∈ found := by
    simpa using hr
  unfold mergeAll?
  cases hfound : found.filterMap id with
  | nil =>
    rw [hfound, List.nil_perm] at hperm'
    rw [hperm']
    exact .none
  | cons r l =>
    cases hfound' : found'.filterMap id with
    | nil =>
      rw [hfound, hfound'] at hperm'
      cases hperm'.eq_nil
    | cons s l' =>
      have hr : r ∈ found.filterMap id := hfound ▸ List.mem_cons_self
      have hs : s ∈ found.filterMap id := hperm'.symm.subset (hfound' ▸ List.mem_cons_self)
      rw [hfound, hfound'] at hperm'
      exact .some ((alike_foldl_merge_iff hperm').2 (h r s (hmem hr) (hmem hs)))

end PixelRange

/-! ## The range of one source -/

namespace PixelRange

open Scalar

/-- The outermost of two values is no number as soon as one of them is none. -/
theorem isNaN_pick_numbers (before : α → α → Bool) (x y : α) :
    isNaN (if isNaN x then x else if isNaN y then y else pick before x y) =
      (isNaN x || isNaN y) := by
  by_cases hx : isNaN x = true
  · rw [if_pos hx, hx, Bool.true_or]
  by_cases hy : isNaN y = true
  · rw [if_neg hx, if_pos hy, hy, Bool.or_true]
  rw [if_neg hx, if_neg hy]
  rcases pick_eq_or before x y with h | h <;> simp [h, hx, hy]

theorem isNaN_meet (x y : α) : isNaN (meet x y) = (isNaN x || isNaN y) :=
  isNaN_pick_numbers lt x y

theorem isNaN_join (x y : α) : isNaN (join x y) = (isNaN x || isNaN y) :=
  isNaN_pick_numbers (fun x y ↦ lt y x) x y

theorem isNaN_foldl_extend (l : List α) (r : PixelRange α) :
    isNaN (l.foldl (fun r y ↦ ⟨meet r.lo y, join r.hi y⟩) r).lo = (isNaN r.lo || l.any isNaN) ∧
      isNaN (l.foldl (fun r y ↦ ⟨meet r.lo y, join r.hi y⟩) r).hi =
        (isNaN r.hi || l.any isNaN) := by
  induction l generalizing r with
  | nil => simp
  | cons y l ih =>
    rw [List.foldl_cons, (ih _).1, (ih _).2, isNaN_meet, isNaN_join, List.any_cons,
      Bool.or_assoc, Bool.or_assoc]
    exact ⟨rfl, rfl⟩

/-- One value that is no number makes both ends of a range none. -/
theorem isNaN_ofValues {values : List α} {r : PixelRange α} (h : ofValues? values = some r) :
    isNaN r.lo = values.any isNaN ∧ isNaN r.hi = values.any isNaN := by
  cases values with
  | nil => cases h
  | cons x values =>
    cases h
    exact isNaN_foldl_extend values ⟨x, x⟩

end PixelRange

namespace RasterSource

variable {s : RasterSource α} {configured : Option α} {pixels : Raster α} {r : PixelRange α}

/-- The colour channels of the pixels that hold data. -/
def channelValues (s : RasterSource α) (configured : Option α) (pixels : Raster α) : List α :=
  (pixels.take s.format.colorBands).unmasked (s.effectiveNodata configured)

/-- Some colour channel of a pixel that holds data is no number. -/
def HasNaN (s : RasterSource α) (configured : Option α) (pixels : Raster α) : Prop :=
  ∃ v ∈ s.channelValues configured pixels, Scalar.isNaN v = true

/-- The ends of the range of a source are no numbers exactly when one of its values is none. -/
theorem isNaN_observedRange (h : s.observedRange? configured pixels = some r) :
    (Scalar.isNaN r.lo = true ↔ s.HasNaN configured pixels) ∧
      (Scalar.isNaN r.hi = true ↔ s.HasNaN configured pixels) := by
  obtain ⟨hlo, hhi⟩ := PixelRange.isNaN_ofValues h
  rw [hlo, hhi]
  exact ⟨List.any_eq_true, List.any_eq_true⟩

theorem observedRange_eq_none_iff :
    s.observedRange? configured pixels = none ↔ s.channelValues configured pixels = [] := by
  unfold observedRange? channelValues PixelRange.ofValues?
  split <;> simp_all

end RasterSource

/-! ## The first pass -/

namespace PixelRange

open Scalar

/-- Two passes found the same range, or both failed. -/
def SameFinding : EStateM.Result Fault (List LogRecord) (PixelRange α) →
    EStateM.Result Fault (List LogRecord) (PixelRange α) → Prop
  | .ok r _, .ok s _ => r.Alike s
  | .error _ _, .error _ _ => True
  | _, _ => False

instance instDecidableSameFinding (x y : EStateM.Result Fault (List LogRecord) (PixelRange α)) :
    Decidable (SameFinding x y) :=
  match x, y with
  | .ok r _, .ok s _ => inferInstanceAs (Decidable (r.Alike s))
  | .error _ _, .error _ _ => inferInstanceAs (Decidable True)
  | .ok _ _, .error _ _ => inferInstanceAs (Decidable False)
  | .error _ _, .ok _ _ => inferInstanceAs (Decidable False)

/-- Why the order of the sources may not matter. -/
inductive OrderFree (engine : Engine α) (configured : Option α) (sources : List (RasterSource α)) :
    Prop
  /-- Some source cannot be read, so there is no range. -/
  | unreadable {s : RasterSource α} : s ∈ sources → engine.readSource s = none →
      OrderFree engine configured sources
  /-- No source has a value that is no number. -/
  | numbers : (∀ s ∈ sources, ∀ pixels, engine.readSource s = some pixels →
      ¬ s.HasNaN configured pixels) → OrderFree engine configured sources
  /-- Every source has one, sources without data apart. -/
  | noNumbers : (∀ s ∈ sources, ∀ pixels, engine.readSource s = some pixels →
      s.channelValues configured pixels ≠ [] → s.HasNaN configured pixels) →
      OrderFree engine configured sources

variable {engine : Engine α} {configured : Option α} {sources permuted : List (RasterSource α)}
  {pixels : RasterSource α → Raster α} {s : RasterSource α} {r : PixelRange α}

/-- A source that cannot be read makes the first pass fail. -/
theorem observe_eq_error (configured : Option α) (hs : s ∈ sources)
    (hread : engine.readSource s = none) (log : List LogRecord) :
    ∃ e log', observe engine configured sources log = .error e log' := by
  have hfails : ∃ e log', sources.mapM (observeOne engine configured) log = .error e log' := by
    induction sources generalizing log with
    | nil => cases hs
    | cons u sources ih =>
      rw [List.mapM_cons]
      cases hone : observeOne engine configured u log with
      | error e log' => exact ⟨e, log', Action.bind_of_eq_error hone⟩
      | ok found mid =>
        rw [Action.bind_of_eq_ok hone]
        rcases List.mem_cons.1 hs with rfl | hs
        · rw [observeOne, Engine.pixelsOf, hread] at hone
          cases hone
        · obtain ⟨e, log', hrest⟩ := ih hs mid
          exact ⟨e, log', Action.bind_of_eq_error hrest⟩
  obtain ⟨e, log', hfails⟩ := hfails
  exact ⟨e, log', Action.bind_of_eq_error hfails⟩

/-- Whether the ends found are numbers is up to the first source. -/
theorem observe_cons [OrderedScalar α]
    (hread : ∀ u ∈ s :: sources, engine.readSource u = some (pixels u))
    (hrange : s.observedRange? configured (pixels s) = some r) (log : List LogRecord) :
    ∃ r' log', observe engine configured (s :: sources) log = .ok r' log' ∧
      r'.AgreeOnNaN r := by
  obtain ⟨log', hobserve⟩ := observe_eq configured hread log
  rw [List.map_cons, hrange] at hobserve
  exact ⟨_, log', hobserve, foldl_merge_agreeOnNaN r _⟩

theorem sameFinding_of_alike (hperm : sources.Perm permuted)
    (hread : ∀ u ∈ sources, engine.readSource u = some (pixels u))
    (hmerged : Option.Rel Alike
      (mergeAll? (sources.map fun u ↦ u.observedRange? configured (pixels u)))
      (mergeAll? (permuted.map fun u ↦ u.observedRange? configured (pixels u))))
    (log log' : List LogRecord) :
    SameFinding (observe engine configured sources log)
      (observe engine configured permuted log') := by
  obtain ⟨mid, hfirst⟩ := observe_eq configured hread log
  obtain ⟨mid', hsecond⟩ := observe_eq configured
    (fun u hu ↦ hread u (hperm.symm.subset hu)) log'
  rw [hfirst, hsecond]
  revert hmerged
  generalize mergeAll? (sources.map fun u ↦ u.observedRange? configured (pixels u)) = merged
  generalize mergeAll? (permuted.map fun u ↦ u.observedRange? configured (pixels u)) = merged'
  intro hmerged
  cases hmerged with
  | some h => exact h
  | none => exact trivial

omit [Scalar α] in
/-- The pixels of sources that can all be read. -/
theorem exists_pixels (hread : ¬ ∃ s ∈ sources, engine.readSource s = none) :
    ∃ pixels : RasterSource α → Raster α,
      ∀ s ∈ sources, engine.readSource s = some (pixels s) := by
  refine ⟨fun s ↦ (engine.readSource s).getD (.zeros 0 0 0), fun s hs ↦ ?_⟩
  obtain ⟨p, hp⟩ := Option.ne_none_iff_exists'.1 fun h ↦ hread ⟨s, hs, h⟩
  simp only [hp, Option.getD_some]

/-- Ranges of two sources of which both or neither have a value that is no number. -/
theorem agreeOnNaN_iff {s' : RasterSource α} {r' : PixelRange α}
    (hrange : s.observedRange? configured (pixels s) = some r)
    (hrange' : s'.observedRange? configured (pixels s') = some r') :
    r.AgreeOnNaN r' ↔
      (s.HasNaN configured (pixels s) ↔ s'.HasNaN configured (pixels s')) := by
  obtain ⟨hlo, hhi⟩ := RasterSource.isNaN_observedRange hrange
  obtain ⟨hlo', hhi'⟩ := RasterSource.isNaN_observedRange hrange'
  rw [AgreeOnNaN, @Bool.eq_iff_iff (isNaN r.lo), @Bool.eq_iff_iff (isNaN r.hi), hlo, hhi, hlo',
    hhi', and_self_iff]

variable [OrderedScalar α]

theorem sameFinding_of_orderFree (hfree : OrderFree engine configured sources)
    (hperm : sources.Perm permuted) (log log' : List LogRecord) :
    SameFinding (observe engine configured sources log)
      (observe engine configured permuted log') := by
  by_cases hunread : ∃ s ∈ sources, engine.readSource s = none
  · obtain ⟨s, hs, hread⟩ := hunread
    obtain ⟨e, mid, hfirst⟩ := observe_eq_error configured hs hread log
    obtain ⟨e', mid', hsecond⟩ := observe_eq_error configured (hperm.subset hs) hread log'
    rw [hfirst, hsecond]
    exact trivial
  obtain ⟨pixels, hread⟩ := exists_pixels hunread
  refine sameFinding_of_alike hperm hread (alike_mergeAll (hperm.map _) ?_) log log'
  intro r r' hr hr'
  obtain ⟨s, hs, hrange⟩ := List.mem_map.1 hr
  obtain ⟨s', hs', hrange'⟩ := List.mem_map.1 hr'
  rw [agreeOnNaN_iff hrange hrange']
  cases hfree with
  | unreadable hu hnone => exact absurd ⟨_, hu, hnone⟩ hunread
  | numbers h => exact iff_of_false (h s hs _ (hread s hs)) (h s' hs' _ (hread s' hs'))
  | noNumbers h =>
    have hvalues {u : RasterSource α} {r : PixelRange α}
        (hu : u.observedRange? configured (pixels u) = some r) :
        u.channelValues configured (pixels u) ≠ [] := fun hnil ↦ by
      rw [RasterSource.observedRange_eq_none_iff.2 hnil] at hu
      cases hu
    exact iff_of_true (h s hs _ (hread s hs) (hvalues hrange))
      (h s' hs' _ (hread s' hs') (hvalues hrange'))

/-- A source put first decides whether the ends found are numbers. -/
theorem isNaN_lo_of_sameFinding
    (hread : ∀ u ∈ sources, engine.readSource u = some (pixels u)) (hs : s ∈ sources)
    (hrange : s.observedRange? configured (pixels s) = some r)
    (hsame : ∀ permuted, sources.Perm permuted → ∀ log log',
      SameFinding (observe engine configured sources log)
        (observe engine configured permuted log')) :
    ∃ r₀ log', observe engine configured sources [] = .ok r₀ log' ∧
      isNaN r₀.lo = isNaN r.lo := by
  obtain ⟨before, after, rfl⟩ := List.append_of_mem hs
  have hperm : (before ++ s :: after).Perm (s :: (before ++ after)) := List.perm_middle
  obtain ⟨r', log', hfirst, hagree⟩ :=
    observe_cons (fun u hu ↦ hread u (hperm.symm.subset hu)) hrange []
  have hfinding := hsame _ hperm [] []
  rw [hfirst] at hfinding
  cases hobserve : observe engine configured (before ++ s :: after) [] with
  | error e mid =>
    rw [hobserve] at hfinding
    exact hfinding.elim
  | ok r₀ mid =>
    rw [hobserve] at hfinding
    exact ⟨r₀, mid, rfl, (orders_lt.alike_iff.1 hfinding.1).1.trans hagree.1⟩

theorem orderFree_of_sameFinding
    (hsame : ∀ permuted, sources.Perm permuted → ∀ log log',
      SameFinding (observe engine configured sources log)
        (observe engine configured permuted log')) :
    OrderFree engine configured sources := by
  by_cases hunread : ∃ s ∈ sources, engine.readSource s = none
  · obtain ⟨s, hs, hread⟩ := hunread
    exact .unreadable hs hread
  obtain ⟨pixels, hread⟩ := exists_pixels hunread
  by_contra hfree
  -- some source has a value that is no number, and another one has values, all of them numbers
  obtain ⟨s, hs, hnone⟩ : ∃ s ∈ sources, s.HasNaN configured (pixels s) := by
    by_contra hall
    refine hfree (.numbers fun s hs p hp hnone ↦ hall ⟨s, hs, ?_⟩)
    rwa [Option.some.inj ((hread s hs).symm.trans hp)]
  obtain ⟨t, ht, hvalues, hnumbers⟩ : ∃ t ∈ sources,
      t.channelValues configured (pixels t) ≠ [] ∧ ¬ t.HasNaN configured (pixels t) := by
    by_contra hall
    refine hfree (.noNumbers fun t ht p hp hvalues ↦ by_contra fun hnumbers ↦ hall ⟨t, ht, ?_⟩)
    rw [Option.some.inj ((hread t ht).symm.trans hp)]
    exact ⟨hvalues, hnumbers⟩
  obtain ⟨r, hrange⟩ : ∃ r, s.observedRange? configured (pixels s) = some r := by
    refine Option.ne_none_iff_exists'.1 fun h ↦ ?_
    obtain ⟨v, hv, -⟩ := hnone
    rw [RasterSource.observedRange_eq_none_iff.1 h] at hv
    cases hv
  obtain ⟨r', hrange'⟩ : ∃ r', t.observedRange? configured (pixels t) = some r' :=
    Option.ne_none_iff_exists'.1 fun h ↦ hvalues (RasterSource.observedRange_eq_none_iff.1 h)
  obtain ⟨r₀, log, hobserve, hlo⟩ := isNaN_lo_of_sameFinding hread hs hrange hsame
  obtain ⟨r₁, log', hobserve', hlo'⟩ := isNaN_lo_of_sameFinding hread ht hrange' hsame
  cases hobserve.symm.trans hobserve'
  have hleft := (RasterSource.isNaN_observedRange hrange).1.2 hnone
  exact hnumbers
    ((RasterSource.isNaN_observedRange hrange').1.1 (hlo'.symm.trans (hlo.trans hleft)))

/-- The first pass does not depend on the order of the sources exactly when no two of them differ
in having a value that is no number: then every order gives the same range, or fails in every order.

Whether the ends of a source's range are numbers is told by its values alone.  Merging commutes
exactly on ranges with numbers at the same ends, and it is associative unless the range in the
middle lacks a number where the first one has it. -/
theorem observe_order_free_iff (engine : Engine α) (configured : Option α)
    (sources : List (RasterSource α)) :
    ((∀ permuted, sources.Perm permuted → ∀ log log',
        SameFinding (observe engine configured sources log)
          (observe engine configured permuted log')) ↔
      OrderFree engine configured sources) ∧
    (∀ (s : RasterSource α) (pixels : Raster α) (r : PixelRange α),
      s.observedRange? configured pixels = some r →
        (isNaN r.lo = true ↔ s.HasNaN configured pixels) ∧
        (isNaN r.hi = true ↔ s.HasNaN configured pixels)) ∧
    (∀ r s : PixelRange α, (r.merge s).Alike (s.merge r) ↔ r.AgreeOnNaN s) ∧
    (∀ r s t : PixelRange α, (isNaN s.lo = true → isNaN r.lo = true) →
      (isNaN s.hi = true → isNaN r.hi = true) →
        (r.merge s).merge t = r.merge (s.merge t)) := by
  refine ⟨⟨fun hsame ↦ ?_, fun hfree ↦ ?_⟩, fun s pixels r ↦ RasterSource.isNaN_observedRange,
    alike_merge_comm_iff, fun r s t ↦ merge_merge⟩
  · exact orderFree_of_sameFinding hsame
  · exact fun permuted hperm log log' ↦ sameFinding_of_orderFree hfree hperm log log'

/-- A row of gray pixels. -/
def grayRow (cols : Nat) : RasterSource Float where
  path := Path.ofString "row.tif"
  format := .gray
  channel := .float64
  cols := cols
  rows := 1
  bandCount := 1
  nodata := none
  crs := none
  transform := Affine.identity

/-- An engine that reads rows of pixels, all with the same value in a column. -/
def rowReader (value : Nat → Float) : Engine Float where
  openSource _ := none
  readSource s := some ⟨1, s.rows, s.cols, fun _ _ x ↦ .real (value x)⟩
  project _ _ := none
  warp pixels _ _ _ _ := pixels

/-- The range of two rows of numbers in both orders, and of three ranges that are merged from the
left and from the right. -/
theorem observe_order_free_iff_two_rows :
    SameFinding
      (observe (rowReader Float.ofNat) none [grayRow 1, grayRow 2] [])
      (observe (rowReader Float.ofNat) none [grayRow 2, grayRow 1] []) ∧
    ((⟨zero, one⟩ : PixelRange Float).merge ⟨one, one⟩).merge ⟨zero / zero, zero / zero⟩ =
      (⟨zero, one⟩ : PixelRange Float).merge
        ((⟨one, one⟩ : PixelRange Float).merge ⟨zero / zero, zero / zero⟩) := by
  obtain ⟨hfree, -, -, hmerge⟩ :=
    observe_order_free_iff (rowReader Float.ofNat) none [grayRow 1, grayRow 2]
  constructor
  · refine hfree.2 (.numbers fun s hs pixels hread ↦ ?_) _ (.swap _ _ []) [] []
    cases hread
    unfold RasterSource.HasNaN
    rcases List.mem_pair.1 hs with rfl | rfl <;> decide +kernel
  · refine hmerge ⟨zero, one⟩ ⟨one, one⟩ ⟨zero / zero, zero / zero⟩ (fun h ↦ ?_) (fun h ↦ ?_)
    · exact absurd h (by decide +kernel)
    · exact absurd h (by decide +kernel)

/-- A row whose second pixel is no number makes the range none when it is read first, and does
nothing when it is read second. -/
theorem observe_depends_on_order :
    ¬ SameFinding
      (observe (rowReader fun x ↦ if x = 0 then one else zero / zero) none
        [grayRow 1, grayRow 2] [])
      (observe (rowReader fun x ↦ if x = 0 then one else zero / zero) none
        [grayRow 2, grayRow 1] []) := by
  decide +kernel

end PixelRange

end QuadMosaic
