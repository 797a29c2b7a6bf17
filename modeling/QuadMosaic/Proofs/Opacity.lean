import QuadMosaic.Proofs.Coverage
import QuadMosaic.Proofs.Draft
import QuadMosaic.Proofs.Signs

/-!
# What a canvas shows does not depend on the order of its views

Which colour a pixel gets depends on how the views of a canvas are ordered and mixed; whether it
gets one does not.  In draft mode the transparency of a pixel is that of the last opaque view, in
the other mode the greatest one, and either is above zero exactly when some view is opaque there.
The tiles of a plan are found by asking for opaque pixels, so a plan does not change when the views
change places or the mode is another, and keeps its tiles when views are added.

The transparency is gathered as a number and cast to the channel of the canvas.  A number beyond the
greatest value of a channel of 64 bits wraps round to the least one, so these numbers are left out.
-/

namespace QuadMosaic

/-- A rounded number lies above an integer. -/
def Rounded.Exceeds (bound : Int) : Rounded → Prop
  | .whole n => bound < n
  | .infinite negative => negative = false
  | .undefined => False

variable {α : Type} [Scalar α]

/-- A number lies beyond the greatest value of a channel of 64 bits, so that it is cast to the least
one. -/
def ChannelType.Wraps (t : ChannelType) (x : α) : Prop :=
  ∃ lo hi, t.limits? = some (lo, hi) ∧ Sample.exactLimit < hi ∧ (Scalar.nearest x).Exceeds hi

/-- Narrower channels take the greatest value instead. -/
theorem ChannelType.not_wraps {t : ChannelType} (h : t ≠ .int64) (h' : t ≠ .uint64) (x : α) :
    ¬ t.Wraps x := by
  rintro ⟨lo, hi, ht, hwide, -⟩
  unfold Sample.exactLimit at hwide
  cases t <;> cases ht <;> first | omega | contradiction

/-- An integer above zero is so within the limits of a channel. -/
theorem ChannelType.clampInt_pos {t : ChannelType} {lo hi n : Int} (ht : t.limits? = some (lo, hi))
    (hn : 0 < n) : 0 < clampInt lo hi n := by
  have hlimits : lo ≤ 0 ∧ 0 < hi := by cases t <;> cases ht <;> decide
  unfold clampInt
  split
  · omega
  · split <;> omega

/-- Zero is zero in every channel of integers. -/
theorem ChannelType.cast_zero [SignedScalar α] {t : ChannelType} {lo hi : Int}
    (ht : t.limits? = some (lo, hi)) : t.cast (Scalar.zero : α) = .whole 0 := by
  obtain ⟨hlo, hhi⟩ := zero_mem_limits ht
  have hsettle : settle lo hi (.whole 0) = 0 :=
    (if_neg (by omega)).trans (clampInt_eq_self hlo hhi)
  rw [cast, ht, SignedScalar.nearest_zero]
  exact congrArg Sample.whole hsettle

/-! ## Integers gathered as numbers -/

namespace Sample

variable {s u : Sample α} {m n : Int} {t : ChannelType}

/-- A sample is an integer, or the number nearest to it. -/
def IsInt (s : Sample α) (n : Int) : Prop := s = whole n ∨ s = real (Scalar.ofInt n)

theorem isInt_widened (n : Int) : (whole n : Sample α).widened.IsInt n := by
  by_cases h : n.natAbs ≤ exactLimit
  · exact .inl (if_pos h)
  · exact .inr (if_neg h)

theorem IsInt.toScalar (h : s.IsInt n) : s.toScalar = Scalar.ofInt n := by
  rcases h with rfl | rfl <;> rfl

variable [SignedScalar α]

/-- A number that is not below zero, joined with another: one of the two, and above zero when one of
them is. -/
theorem isInt_join_real (hm : 0 ≤ m) (n : Int) :
    ∃ k, (real (Scalar.join (Scalar.ofInt m : α) (Scalar.ofInt n))).IsInt k ∧ (k = m ∨ k = n) ∧
      0 ≤ k ∧ (0 < k ↔ 0 < m ∨ 0 < n) := by
  have hjoin : Scalar.join (Scalar.ofInt m : α) (Scalar.ofInt n) =
      if Scalar.lt (Scalar.ofInt m : α) (Scalar.ofInt n) then Scalar.ofInt n
      else Scalar.ofInt m := by
    rw [Scalar.join, SignedScalar.isNaN_ofInt, SignedScalar.isNaN_ofInt]
    rfl
  rw [hjoin]
  split
  case isFalse hlt =>
    refine ⟨m, .inr rfl, .inl rfl, hm, .inl, ?_⟩
    rintro (h | h)
    · exact h
    · -- a zero is less than every integer above zero
      refine Int.lt_iff_le_and_ne.2 ⟨hm, ?_⟩
      rintro rfl
      exact hlt ((LawfulScalar.lt_zero_ofInt n).trans (decide_eq_true h))
  case isTrue hlt =>
    have hn : 0 < n := by
      refine Int.not_le.1 fun hn ↦ ?_
      rcases Int.lt_or_eq_of_le hm with hm | rfl
      · rw [SignedScalar.lt_ofInt hm hn] at hlt
        cases hlt
      · exact absurd (of_decide_eq_true ((LawfulScalar.lt_zero_ofInt n).symm.trans hlt)) (by omega)
    exact ⟨n, .inr rfl, .inr rfl, Int.le_of_lt hn, fun _ ↦ .inr hn, fun _ ↦ hn⟩

/-- The same, for samples. -/
theorem IsInt.join (h : s.IsInt m) (h' : u.IsInt n) (hm : 0 ≤ m) :
    ∃ k, (s.join u).IsInt k ∧ (k = m ∨ k = n) ∧ 0 ≤ k ∧ (0 < k ↔ 0 < m ∨ 0 < n) := by
  have hreal := isInt_join_real (α := α) hm n
  rcases h with rfl | rfl <;> rcases h' with rfl | rfl
  · exact ⟨max m n, .inl rfl, by omega, by omega, by omega⟩
  all_goals exact hreal

/-- Channels without limits keep a number above zero. -/
theorem isPositive_cast_of_none (ht : t.limits? = none) (hn : 0 < n) :
    (t.cast (Scalar.ofInt n : α)).isPositive = true := by
  have hlt : Scalar.lt (Scalar.zero : α) (Scalar.ofInt n) = true :=
    (LawfulScalar.lt_zero_ofInt n).trans (decide_eq_true hn)
  have heq : Scalar.eq (Scalar.ofInt n) (Scalar.zero : α) = false :=
    LawfulScalar.eq_ofInt_zero_of_ne (Int.ne_of_gt hn)
  unfold ChannelType.cast
  rw [ht]
  simp only
  split
  · rw [heq]
    rfl
  · split
    · exact SignedScalar.toHalf_ofInt hn
    · split
      · exact SignedScalar.toSingle_ofInt hn
      · exact hlt

/-- Channels of integers do so as long as the number does not wrap round. -/
theorem isPositive_cast_of_limits {lo hi : Int} (ht : t.limits? = some (lo, hi)) (hn : 0 < n)
    (hkept : ¬ t.Wraps (Scalar.ofInt n : α)) :
    (t.cast (Scalar.ofInt n : α)).isPositive = true := by
  have hwide (hexceeds : (Scalar.nearest (Scalar.ofInt n : α)).Exceeds hi) :
      ¬ Sample.exactLimit < hi := fun hwide ↦ hkept ⟨lo, hi, ht, hwide, hexceeds⟩
  unfold ChannelType.cast
  rw [ht]
  change decide (0 < ChannelType.settle lo hi (Scalar.nearest (Scalar.ofInt n : α))) = true
  rw [decide_eq_true_eq]
  rcases SignedScalar.nearest_ofInt (α := α) hn with ⟨k, hk, hnearest⟩ | hnearest <;>
    rw [hnearest] at hwide ⊢
  · rw [ChannelType.settle, if_neg fun h ↦ hwide h.2 h.1]
    exact ChannelType.clampInt_pos ht hk
  · rw [ChannelType.settle, if_neg (by simpa using hwide rfl)]
    cases t <;> cases ht <;> decide

/-- An integer above zero is so in every channel, as long as it does not wrap round. -/
theorem IsInt.isPositive_cast (h : s.IsInt n) (hn : 0 < n)
    (hkept : ¬ t.Wraps (Scalar.ofInt n : α)) : (s.cast t).isPositive = true := by
  cases ht : t.limits? with
  | none =>
    have hcast : s.cast t = t.cast (Scalar.ofInt n) := by
      rcases h with rfl | rfl
      · rw [cast, ht]
      · rfl
    rw [hcast]
    exact isPositive_cast_of_none ht hn
  | some limits =>
    obtain ⟨lo, hi⟩ := limits
    rcases h with rfl | rfl
    · rw [cast, ht]
      exact decide_eq_true (ChannelType.clampInt_pos ht hn)
    · exact isPositive_cast_of_limits ht hn hkept

/-- Zero is zero in every channel. -/
theorem IsInt.isPositive_cast_zero (h : s.IsInt 0) : (s.cast t).isPositive = false := by
  rcases h with rfl | rfl
  · exact Sample.isPositive_cast_zero t
  · cases ht : t.limits? with
    | none =>
      have hcast : (real (Scalar.ofInt 0 : α)).cast t = (whole 0 : Sample α).cast t := by
        rw [cast, cast, ht]
      rw [hcast]
      exact Sample.isPositive_cast_zero t
    | some limits =>
      change (t.cast (Scalar.zero : α)).isPositive = false
      rw [ChannelType.cast_zero ht]
      rfl

end Sample

/-! ## The transparency of a pixel -/

/-- The transparency gathered at a pixel is an integer, above zero exactly when something holds, and
is not one that wraps round. -/
def Cell.Gathers (cell : Cell α) (last : Nat) (t : ChannelType) (isOpaque : Prop) : Prop :=
  ∃ k, (cell.sample last).IsInt k ∧ 0 ≤ k ∧ (0 < k ↔ isOpaque) ∧
    (0 < k → ¬ t.Wraps (Scalar.ofInt k : α))

theorem Cell.gathers_blank (last : Nat) (t : ChannelType) :
    (blank : Cell α).Gathers last t False :=
  ⟨0, .inl rfl, Int.le_refl 0, by simp, by simp⟩

/-- What was gathered is cast to a sample above zero exactly when it should be. -/
theorem Cell.Gathers.isPositive_cast [SignedScalar α] {cell : Cell α} {last : Nat}
    {t : ChannelType} {isOpaque : Prop} (h : cell.Gathers last t isOpaque) :
    ((cell.sample last).cast t).isPositive = true ↔ isOpaque := by
  obtain ⟨k, hk, hnonneg, hiff, hkept⟩ := h
  rw [← hiff]
  rcases Int.lt_or_eq_of_le hnonneg with hpos | rfl
  · exact ⟨fun _ ↦ hpos, fun _ ↦ hk.isPositive_cast hpos (hkept hpos)⟩
  · rw [hk.isPositive_cast_zero]
    simp

namespace View

/-- The transparency of a view at a pixel. -/
def alphaAt (v : View α) (x y : Int) : Sample α :=
  v.pixels.pixelAt v.box x y (v.pixels.bands - 1)

/-- The samples of a view are those of some channel of integers. -/
def IsTyped (v : View α) : Prop :=
  ∃ (t : ChannelType) (lo hi : Int), t.limits? = some (lo, hi) ∧ v.IsWhole lo hi

/-- Where a view is opaque, its transparency does not wrap round. -/
def IsKept (v : View α) (t : ChannelType) : Prop :=
  ∀ x y, v.Covers x y → ¬ t.Wraps (v.alphaAt x y).toScalar

variable {v : View α} {x y : Int} {t : ChannelType} {cell : Cell α} {last : Nat} {isOpaque : Prop}

omit [Scalar α] in
theorem IsTyped.alphaAt (h : v.IsTyped) (hbox : v.box.IsSized v.pixels.rows v.pixels.cols)
    (hbands : v.pixels.bands = last + 1) (hxy : v.box.Holds x y) :
    ∃ n, v.alphaAt x y = .whole n := by
  obtain ⟨u, lo, hi, -, hwhole⟩ := h
  obtain ⟨n, hn, -⟩ := hwhole.pixelAt hbox hxy (b := v.pixels.bands - 1) (by omega)
  exact ⟨n, hn⟩

variable [SignedScalar α]

/-- One more view, in either mode, makes a pixel opaque exactly when it covers it. -/
theorem layAt_gathers (h : cell.Gathers last t isOpaque) (draft : Bool) (htyped : v.IsTyped)
    (hkept : v.IsKept t) (hbox : v.box.IsSized v.pixels.rows v.pixels.cols)
    (hbands : v.pixels.bands = last + 1) :
    (v.layAt draft t x y cell).Gathers last t (isOpaque ∨ v.Covers x y) := by
  by_cases hxy : v.box.Holds x y
  case neg =>
    have hclear : ¬ v.Covers x y := fun hv ↦ hxy hv.1
    rwa [layAt, if_neg hxy, or_iff_left hclear]
  obtain ⟨n, hn⟩ := htyped.alphaAt hbox hbands hxy
  have hcovers : v.Covers x y ↔ 0 < n := by
    have hpositive : (v.alphaAt x y).isPositive = true ↔ 0 < n := by
      rw [hn]
      exact decide_eq_true_iff
    exact ⟨fun hv ↦ hpositive.1 hv.2, fun hpos ↦ ⟨hxy, hpositive.2 hpos⟩⟩
  have hkeptn (hpos : 0 < n) : ¬ t.Wraps (Scalar.ofInt n : α) := by
    have := hkept x y (hcovers.2 hpos)
    rwa [hn] at this
  have hsource : (v.alphaAt x y).widened.IsInt n := by
    rw [hn]
    exact Sample.isInt_widened n
  obtain ⟨k, hk, hnonneg, hiff, hkeptk⟩ := h
  cases draft with
  | true =>
    by_cases hv : v.Covers x y
    · rw [layAt_of_covers hv]
      have hpos := hcovers.1 hv
      refine ⟨n, ?_, Int.le_of_lt hpos, iff_of_true hpos (.inr hv), hkeptn⟩
      rw [alphaAt, hbands] at hsource
      exact hsource
    · rw [layAt_of_not_covers hv, or_iff_left hv]
      exact ⟨k, hk, hnonneg, hiff, hkeptk⟩
  | false =>
    obtain ⟨j, hj, hone, hjnonneg, hjiff⟩ := hk.join hsource hnonneg
    refine ⟨j, ?_, hjnonneg, hjiff.trans (or_congr hiff hcovers.symm), ?_⟩
    · have hlast : (v.layAt false t x y cell).sample last =
          (cell.sample last).join (v.alphaAt x y).widened := by
        rw [layAt, if_pos hxy, Cell.lay, if_neg (by decide), Cell.mix, alphaAt, hbands]
        exact if_neg (by omega)
      rw [hlast]
      exact hj
    · rcases hone with rfl | rfl
      · exact hkeptk
      · exact hkeptn

/-- All views together make a pixel opaque exactly when one of them covers it. -/
theorem foldl_layAt_gathers {views : List (View α)} (h : cell.Gathers last t isOpaque)
    (draft : Bool) (htyped : ∀ v ∈ views, v.IsTyped) (hkept : ∀ v ∈ views, v.IsKept t)
    (hfits : ∀ v ∈ views, v.Fits (last + 1 : Nat)) :
    (views.foldl (fun cell v ↦ v.layAt draft t x y cell) cell).Gathers last t
      (isOpaque ∨ ∃ v ∈ views, v.Covers x y) := by
  induction views generalizing cell isOpaque with
  | nil => simpa using h
  | cons u views ih =>
    have hu := List.mem_cons_self (a := u) (l := views)
    have hstep := layAt_gathers (x := x) (y := y) h draft (htyped u hu) (hkept u hu)
      (hfits u hu).box (Int.ofNat.inj (hfits u hu).bands)
    have hrest := ih hstep (fun v hv ↦ htyped v (List.mem_cons_of_mem u hv))
      (fun v hv ↦ hkept v (List.mem_cons_of_mem u hv))
      (fun v hv ↦ hfits v (List.mem_cons_of_mem u hv))
    rwa [List.foldl_cons, List.exists_mem_cons_iff, ← or_assoc]

end View

namespace Canvas

variable [SignedScalar α] {c : Canvas α}

/-- A pixel of a canvas is opaque exactly when some view covers it, in either mode. -/
theorem isOpaqueAt_iff_covers (hc : c.Sound) (hbands : 0 < c.bands)
    (htyped : ∀ v ∈ c.views, v.IsTyped) (hkept : ∀ v ∈ c.views, v.IsKept c.channel) (x y : Int) :
    c.IsOpaqueAt x y ↔ ∃ v ∈ c.views, v.Covers x y := by
  obtain ⟨last, hlast⟩ : ∃ last : Nat, c.bands = (last + 1 : Nat) := ⟨(c.bands - 1).toNat, by omega⟩
  have hfits := hc.fits
  rw [hlast] at hfits
  have hgathers := View.foldl_layAt_gathers (x := x) (y := y) (Cell.gathers_blank last c.channel)
    c.draft htyped hkept hfits
  rw [false_or] at hgathers
  have hsettle : (c.cellAt x y).settle c.draft c.channel c.bands.toNat (c.bands.toNat - 1) =
      ((c.cellAt x y).sample last).cast c.channel := by
    rw [hlast, Int.toNat_natCast, Nat.add_sub_cancel, Cell.settle, if_neg (by simp)]
  rw [IsOpaqueAt, hsettle]
  exact (and_iff_right hbands).trans hgathers.isPositive_cast

end Canvas

/-! ## The tiles of two canvases -/

namespace TileJob

variable {c c' : Canvas α} {job : TileJob} {t : Tile} {source : TileSource α} {hasAlpha : Bool}

/-- Without bands nothing can be told of a tile that shares pixels with the region. -/
theorem isOccupied_canvas_of_not_pos (hc : c.Sound) (hextent : c.extent.isSome = true)
    (hbands : ¬ 0 < c.bands) (hempty : (job.tileBox t).isEmpty = false) :
    job.isOccupied (OpenedRun.canvasSource c) true t =
      .error (if c.bands < 0 then .canvas (.shape .negativeLength) else .value .noSuchIndex) := by
  rw [isOccupied_of_not_isEmpty hempty]
  change c.read (job.tileBox t) >>= holdsData true = _
  by_cases hneg : c.bands < 0
  · have hread : c.read (job.tileBox t) = .error (.canvas (.shape .negativeLength)) := by
      rw [Canvas.read, if_neg (by simp [Option.isNone_iff_eq_none,
        Option.isSome_iff_ne_none.1 hextent]), if_pos hneg]
    rw [hread, if_pos hneg]
    rfl
  · rw [if_neg hneg]
    cases hread : c.read (job.tileBox t) with
    | ok r =>
      have hreads := Canvas.reads_of_read hc hread
      have hzero : r.bands = 0 := by
        have := hreads.bands
        omega
      change holdsData true r = _
      simp [holdsData, hzero]
    | error e =>
      have hzero : c.bands = 0 := by omega
      have hfits := hc.fits
      rw [hzero] at hfits
      by_cases hshared : ∃ v ∈ c.views, (v.box.crop (job.tileBox t)).isEmpty = false
      · rw [Canvas.read_eq_gather hextent (by omega), Canvas.gather,
          Canvas.foldlM_layInto_eq_noSuchIndex hfits hshared] at hread
        cases hread
        rfl
      · obtain ⟨r, hr, -⟩ := Canvas.read_eq_ok hc hextent (by omega) fun _ v hv ↦
          eq_true_of_ne_false fun h ↦ hshared ⟨v, hv, h⟩
        cases hr.symm.trans hread

/-- Canvases that show the same pixels have the same tiles. -/
theorem isOccupied_canvas_congr (hc : c.Sound) (hc' : c'.Sound) (hextent : c.extent.isSome = true)
    (hextent' : c'.extent.isSome = true) (hbands : c.bands = c'.bands)
    (hshown : 0 < c.bands → ∀ x y, c.IsOpaqueAt x y ↔ c'.IsOpaqueAt x y) (job : TileJob)
    (t : Tile) : job.isOccupied (OpenedRun.canvasSource c) true t =
      job.isOccupied (OpenedRun.canvasSource c') true t := by
  cases hempty : (job.tileBox t).isEmpty with
  | true => rw [isOccupied_of_isEmpty hempty, isOccupied_of_isEmpty hempty]
  | false =>
    by_cases hpos : 0 < c.bands
    · have hiff : job.isOccupied (OpenedRun.canvasSource c) true t = .ok true ↔
          job.isOccupied (OpenedRun.canvasSource c') true t = .ok true := by
        rw [isOccupied_canvas_iff hc hextent, isOccupied_canvas_iff hc' hextent']
        simp only [hshown hpos]
      obtain ⟨answer, hanswer⟩ := exists_isOccupied_canvas hc hextent hpos job t
      obtain ⟨answer', hanswer'⟩ := exists_isOccupied_canvas hc' hextent' (hbands ▸ hpos) job t
      rw [hanswer, hanswer'] at hiff ⊢
      cases answer <;> cases answer' <;> simp_all
    · rw [isOccupied_canvas_of_not_pos hc hextent hpos hempty,
        isOccupied_canvas_of_not_pos hc' hextent' (hbands ▸ hpos) hempty, hbands]

/-- The tiles found are candidates that hold data. -/
theorem mem_of_leaves {leaves : List Tile} (h : job.leaves source hasAlpha = .ok leaves) :
    t ∈ leaves ↔ job.region.isEmpty = false ∧ t ∈ job.candidates ∧
      job.isOccupied source hasAlpha t = .ok true := by
  unfold TileJob.leaves at h
  split at h
  case isTrue hregion =>
    cases h
    simp [hregion]
  case isFalse hregion =>
    split at h
    · cases h
    · rcases filterM_cases (job.isOccupied source hasAlpha) job.candidates with
        ⟨u, -, e, -, herror⟩ | hok
      · cases herror.symm.trans h
      · cases hok.symm.trans h
        rw [List.mem_filter, passes_eq_true]
        exact (and_iff_right (Bool.eq_false_iff.2 hregion)).symm

/-- The search fails only where looking at a tile does, or with the job itself. -/
theorem exists_leaves {source' : TileSource α} {leaves : List Tile}
    (h : job.leaves source hasAlpha = .ok leaves)
    (htells : ∀ t, ∃ answer, job.isOccupied source' hasAlpha t = .ok answer) :
    ∃ leaves', job.leaves source' hasAlpha = .ok leaves' := by
  unfold TileJob.leaves at h ⊢
  split at h
  case isTrue hregion => exact ⟨[], if_pos hregion⟩
  case isFalse hregion =>
    split at h
    · cases h
    · rename_i hsize
      rw [if_neg hregion, if_neg hsize]
      rcases filterM_cases (job.isOccupied source' hasAlpha) job.candidates with
        ⟨t, -, e, herror, -⟩ | hok
      · obtain ⟨answer, hanswer⟩ := htells t
        cases hanswer.symm.trans herror
      · exact ⟨_, hok⟩

end TileJob

/-- More tiles have more parents. -/
theorem Tile.above_subset {leaves leaves' : List Tile} (h : leaves ⊆ leaves') (k : Nat) :
    above leaves k ⊆ above leaves' k := by
  induction k with
  | zero => exact h
  | succ k ih =>
    intro t ht
    obtain ⟨s, hs, rfl⟩ := mem_parents.1 ht
    exact mem_parents.2 ⟨s, ih hs, rfl⟩

namespace TilePlan

open OpenedRun (canvasSource)

variable {rule : LevelRule} {job : TileJob} {source source' : TileSource α} {plan plan' : TilePlan}

/-- A source with more tiles leads to a plan with more tiles on every level. -/
theorem level_subset (h : ofJob rule job source = .ok plan)
    (h' : ofJob rule job source' = .ok plan')
    (hmore : ∀ t, job.isOccupied source source.hasAlpha t = .ok true →
      job.isOccupied source' source'.hasAlpha t = .ok true) :
    plan'.levels.length = plan.levels.length ∧ ∀ l, plan.level l ⊆ plan'.level l := by
  obtain ⟨n, leaves, hn, hleaves, rfl⟩ := ofJob_eq_ok_iff.1 h
  obtain ⟨n', leaves', hn', hleaves', rfl⟩ := ofJob_eq_ok_iff.1 h'
  cases hn.symm.trans hn'
  have hsubset : leaves ⊆ leaves' := by
    intro t ht
    obtain ⟨hregion, hcandidate, hoccupied⟩ := (TileJob.mem_of_leaves hleaves).1 ht
    exact (TileJob.mem_of_leaves hleaves').2 ⟨hregion, hcandidate, hmore t hoccupied⟩
  refine ⟨by simp only [List.length_reverse, Tile.length_levelsUp], fun l ↦ ?_⟩
  by_cases hl : l < n.toNat
  · rw [level_mk hl, level_mk hl]
    exact Tile.above_subset hsubset _
  · rw [level, List.getD_eq_default _ _ (by
      rw [List.length_reverse, Tile.length_levelsUp]
      omega)]
    exact List.nil_subset _

variable [SignedScalar α]

/-- Two canvases of the same bands and channel, filled with views of integers whose transparency
does not wrap round, and each prepared for any extent in either mode.

What is read of the first is opaque exactly where some view of it is.  When the second holds the
same views in another order, every job is planned alike.  When it holds more views, every tile that
is listed for the first is listed for it as well, on the same level. -/
theorem plan_independent_of_order {bands : Int} {channel : ChannelType}
    {views views' : List (View α)}
    {filled filled' c c' : Canvas α} {extent extent' : PixelBox} {draft draft' : Bool}
    (hfilled : Canvas.Filled bands channel views filled)
    (hprepare : filled.prepare extent draft = .ok c)
    (hfilled' : Canvas.Filled bands channel views' filled')
    (hprepare' : filled'.prepare extent' draft' = .ok c')
    (htyped : ∀ v ∈ views ++ views', v.IsTyped) (hkept : ∀ v ∈ views ++ views', v.IsKept channel) :
    (1 ≤ bands → ∀ window, ∃ pixels, c.read window = .ok pixels ∧ ∀ x y, window.Holds x y →
      (pixels.IsOpaqueAt window x y ↔ ∃ v ∈ views, v.Covers x y)) ∧
    (views.Perm views' → ∀ rule job,
      ofJob rule job (canvasSource c) = ofJob rule job (canvasSource c')) ∧
    (views ⊆ views' → ∀ rule job plan, ofJob rule job (canvasSource c) = .ok plan →
      (1 ≤ bands → ∃ plan', ofJob rule job (canvasSource c') = .ok plan') ∧
      ∀ plan', ofJob rule job (canvasSource c') = .ok plan' →
        plan'.levels.length = plan.levels.length ∧ ∀ l, plan.level l ⊆ plan'.level l) := by
  obtain ⟨hc, rfl, rfl, rfl, hextent, rfl⟩ := hfilled.prepare hprepare
  obtain ⟨hc', hbands, hchannel, rfl, hextent', rfl⟩ := hfilled'.prepare hprepare'
  have hshown (hpos : 0 < c.bands) (x y : Int) :
      c.IsOpaqueAt x y ↔ ∃ v ∈ c.views, v.Covers x y :=
    Canvas.isOpaqueAt_iff_covers hc hpos (fun v hv ↦ htyped v (List.mem_append_left _ hv))
      (fun v hv ↦ hkept v (List.mem_append_left _ hv)) x y
  have hshown' (hpos : 0 < c.bands) (x y : Int) :
      c'.IsOpaqueAt x y ↔ ∃ v ∈ c'.views, v.Covers x y :=
    Canvas.isOpaqueAt_iff_covers hc' (hbands ▸ hpos)
      (fun v hv ↦ htyped v (List.mem_append_right _ hv))
      (fun v hv ↦ hchannel ▸ hkept v (List.mem_append_right _ hv)) x y
  refine ⟨?_, ?_, ?_⟩
  · intro hpos window
    obtain ⟨pixels, hread, hreads⟩ := Canvas.read_eq_ok hc hextent (by omega)
      fun hz ↦ absurd hz (by omega)
    exact ⟨pixels, hread, fun x y hxy ↦ (hreads.isOpaqueAt_iff hxy).trans (hshown hpos x y)⟩
  · intro hperm rule job
    have hsame : job.isOccupied (canvasSource c) true = job.isOccupied (canvasSource c') true := by
      funext t
      refine TileJob.isOccupied_canvas_congr hc hc' hextent hextent' hbands.symm ?_ job t
      intro hpos x y
      rw [hshown hpos, hshown' hpos]
      simp only [hperm.mem_iff]
    have hleaves : job.leaves (canvasSource c) true = job.leaves (canvasSource c') true := by
      rw [TileJob.leaves, TileJob.leaves, hsame]
    change (treeLevels rule job.extent job.tileSize >>= fun levels ↦
      job.leaves (canvasSource c) true >>= fun leaves ↦ _) = _
    rw [hleaves]
    rfl
  · intro hsubset rule job plan hplan
    constructor
    · intro hpos
      obtain ⟨n, leaves, hlevels, hleaves, -⟩ := ofJob_eq_ok_iff.1 hplan
      have htells := TileJob.exists_isOccupied_canvas hc' hextent' (by omega) job
      obtain ⟨leaves', hleaves'⟩ := TileJob.exists_leaves hleaves htells
      exact ⟨_, ofJob_eq_ok_iff.2 ⟨n, leaves', hlevels, hleaves', rfl⟩⟩
    · intro plan' hplan'
      refine level_subset hplan hplan' fun t ht ↦ ?_
      obtain ⟨x, y, hxy, hxy'⟩ := (TileJob.isOccupied_canvas_iff hc hextent).1 ht
      have hpos := hxy'.1
      obtain ⟨v, hv, hcovers⟩ := (hshown hpos x y).1 hxy'
      exact (TileJob.isOccupied_canvas_iff hc' hextent').2
        ⟨x, y, hxy, (hshown' hpos x y).2 ⟨v, hsubset hv, hcovers⟩⟩

/-- Two views of bytes, in either order and mode. -/
theorem plan_independent_of_order_two_views :
    ∃ (filled filled' c c' : Canvas Float),
      Canvas.Filled 2 .uint8 [View.flat 2 2 2 (-1) (-1) 200, View.flat 2 1 1 0 0 7] filled ∧
      Canvas.Filled 2 .uint8 [View.flat 2 1 1 0 0 7, View.flat 2 2 2 (-1) (-1) 200] filled' ∧
      filled.prepare ⟨0, 0, 4, 4⟩ true = .ok c ∧ filled'.prepare ⟨0, 0, 4, 4⟩ false = .ok c' ∧
      ∀ rule job, ofJob rule job (canvasSource c) = ofJob rule job (canvasSource c') := by
  obtain ⟨filled, hfilled⟩ : ∃ filled : Canvas Float, Canvas.Filled 2 .uint8
      [View.flat 2 2 2 (-1) (-1) 200, View.flat 2 1 1 0 0 7] filled :=
    ⟨_, .insert ⟨[2, 1, 1], fun _ ↦ .whole 7⟩ 0 0 ""
      (.insert ⟨[2, 2, 2], fun _ ↦ .whole 200⟩ (-1) (-1) "" .new rfl) rfl⟩
  obtain ⟨filled', hfilled'⟩ : ∃ filled : Canvas Float, Canvas.Filled 2 .uint8
      [View.flat 2 1 1 0 0 7, View.flat 2 2 2 (-1) (-1) 200] filled :=
    ⟨_, .insert ⟨[2, 2, 2], fun _ ↦ .whole 200⟩ (-1) (-1) ""
      (.insert ⟨[2, 1, 1], fun _ ↦ .whole 7⟩ 0 0 "" .new rfl) rfl⟩
  obtain ⟨c, hprepare⟩ : ∃ c, filled.prepare ⟨0, 0, 4, 4⟩ true = .ok c :=
    ⟨_, if_neg (by rw [hfilled.fields.2.2.2]; decide)⟩
  obtain ⟨c', hprepare'⟩ : ∃ c, filled'.prepare ⟨0, 0, 4, 4⟩ false = .ok c :=
    ⟨_, if_neg (by rw [hfilled'.fields.2.2.2]; decide)⟩
  have hflat (n : Int) (hn : 0 ≤ n) (hn' : n ≤ 255) (rows cols : Nat) (x y : Int) :
      (View.flat 2 rows cols x y n : View Float).IsTyped :=
    ⟨.uint8, 0, 255, rfl, fun _ _ _ _ _ _ ↦ ⟨n, rfl, hn, hn'⟩⟩
  refine ⟨filled, filled', c, c', hfilled, hfilled', hprepare, hprepare', ?_⟩
  refine (plan_independent_of_order hfilled hprepare hfilled' hprepare' ?_ ?_).2.1
    (List.Perm.swap _ _ [])
  · intro v hv
    simp only [List.cons_append, List.nil_append, List.mem_cons, List.not_mem_nil, or_false] at hv
    rcases hv with rfl | rfl | rfl | rfl <;> exact hflat _ (by decide) (by decide) _ _ _ _
  · intro v _ x y _
    exact ChannelType.not_wraps (by decide) (by decide) _

/-- The greatest integer of 64 bits as transparency: its double wraps round, so that the later view
hides the tile of the earlier one. -/
theorem plan_depends_on_order_of_wide_alpha :
    ∃ (u v : View Float) (filled filled' c c' : Canvas Float) (job : TileJob),
      Canvas.Filled 2 .int64 [u, v] filled ∧ filled.prepare ⟨0, 0, 1, 1⟩ true = .ok c ∧
      Canvas.Filled 2 .int64 [v, u] filled' ∧ filled'.prepare ⟨0, 0, 1, 1⟩ true = .ok c' ∧
      u.IsTyped ∧ v.IsTyped ∧ u.Covers 0 0 ∧ v.Covers 0 0 ∧
      v.alphaAt 0 0 = .whole 9223372036854775807 ∧
      ofJob .exact job (canvasSource c) = .ok ⟨[[]]⟩ ∧
      ofJob .exact job (canvasSource c') = .ok ⟨[[⟨0, 0⟩]]⟩ := by
  refine ⟨_, _, _, _, _, _, ⟨.null, .kml, ⟨0, 0, 1, 1⟩, ⟨0, 0, 1, 1⟩, 1, "png", []⟩,
    .insert ⟨[2, 1, 1], fun _ ↦ .whole 9223372036854775807⟩ 0 0 ""
      (.insert ⟨[2, 1, 1], fun _ ↦ .whole 5⟩ 0 0 "" .new rfl) rfl, rfl,
    .insert ⟨[2, 1, 1], fun _ ↦ .whole 5⟩ 0 0 ""
      (.insert ⟨[2, 1, 1], fun _ ↦ .whole 9223372036854775807⟩ 0 0 "" .new rfl) rfl, rfl,
    ⟨.int64, _, _, rfl, fun _ _ _ _ _ _ ↦ ⟨5, rfl, by decide, by decide⟩⟩,
    ⟨.int64, _, _, rfl, fun _ _ _ _ _ _ ↦ ⟨9223372036854775807, rfl, by decide, by decide⟩⟩,
    ⟨by decide, rfl⟩, ⟨by decide, rfl⟩, rfl, rfl, rfl⟩

end TilePlan

end QuadMosaic
