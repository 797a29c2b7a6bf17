import QuadMosaic.Proofs.Boxes
import QuadMosaic.Proofs.Steps
import QuadMosaic.Tiles.Tree

/-!
# Tiles and their parents

Lists of tiles stand for sets: a sorted list holds what the list given holds, each tile once.  A
parent holds the tiles whose coordinates halve to its own, and its name goes on with one digit to
the name of each.

The tiles of the deepest level are found by a search over a range of columns and rows.  Ranges are
computed by division, rounded down at one end and up at the other; a tile lies in them exactly when
its square shares pixels with the region of the job.  So the tiles found are those that hold data,
and nothing more needs to be known of the search.
-/

namespace QuadMosaic

namespace Tile

variable {s t : Tile} {tiles : List Tile}

/-! ## Sorted lists -/

theorem before_iff : s.before t = true ↔ s.row < t.row ∨ s.row = t.row ∧ s.col ≤ t.col := by
  simp [before]

theorem before_trans (s t u : Tile) (h : s.before t = true) (h' : t.before u = true) :
    s.before u = true := by
  rw [before_iff] at h h' ⊢
  omega

theorem before_total (s t : Tile) : (s.before t || t.before s) = true := by
  rw [Bool.or_eq_true, before_iff, before_iff]
  omega

theorem before_antisymm (h : s.before t = true) (h' : t.before s = true) : s = t := by
  rw [before_iff] at h h'
  obtain ⟨scol, srow⟩ := s
  obtain ⟨tcol, trow⟩ := t
  simp only [mk.injEq] at h h' ⊢
  omega

theorem mem_dropRepeated : t ∈ dropRepeated tiles ↔ t ∈ tiles := by
  induction tiles using dropRepeated.induct with
  | case1 => exact Iff.rfl
  | case2 s => exact Iff.rfl
  | case3 s rest ih =>
    rw [dropRepeated, if_pos rfl, ih]
    simp
  | case4 s u rest h ih =>
    rw [dropRepeated, if_neg h, List.mem_cons, ih]
    simp

theorem nodup_dropRepeated (h : tiles.Pairwise fun s t ↦ s.before t = true) :
    (dropRepeated tiles).Nodup := by
  induction tiles using dropRepeated.induct with
  | case1 => exact List.nodup_nil
  | case2 s => exact List.pairwise_singleton _ s
  | case3 s rest ih =>
    rw [dropRepeated, if_pos rfl]
    exact ih h.tail
  | case4 s u rest hne ih =>
    rw [dropRepeated, if_neg hne, List.nodup_cons, mem_dropRepeated]
    refine ⟨fun hs ↦ hne ?_, ih (List.pairwise_cons.1 h).2⟩
    -- a second `s` among the later tiles would stand between `s` and `u`
    obtain ⟨hfirst, hrest⟩ := List.pairwise_cons.1 h
    rcases List.mem_cons.1 hs with hs | hs
    · exact hs
    · exact before_antisymm (hfirst u List.mem_cons_self) ((List.pairwise_cons.1 hrest).1 s hs)

/-- Sorting keeps the tiles. -/
theorem mem_sorted : t ∈ sorted tiles ↔ t ∈ tiles := by
  rw [sorted, mem_dropRepeated, List.mem_mergeSort]

/-- Sorting leaves each tile once. -/
theorem nodup_sorted : (sorted tiles).Nodup :=
  nodup_dropRepeated (List.pairwise_mergeSort before_trans before_total tiles)

/-! ## Parents -/

/-- The four tiles that a tile holds one level down. -/
theorem parent_eq_iff : s.parent = t ↔
    (s.col = 2 * t.col ∨ s.col = 2 * t.col + 1) ∧ (s.row = 2 * t.row ∨ s.row = 2 * t.row + 1) := by
  obtain ⟨tcol, trow⟩ := t
  simp only [parent, mk.injEq, Int.fdiv_eq_ediv_of_nonneg _ (by decide : (0 : Int) ≤ 2)]
  omega

theorem mem_parents : t ∈ parents tiles ↔ ∃ s ∈ tiles, s.parent = t := by
  rw [parents, mem_sorted, List.mem_map]

theorem nodup_parents : (parents tiles).Nodup := nodup_sorted

/-- The digit of a tile within its parent. -/
def childDigit (t : Tile) : Int := t.col % 2 + 2 * (t.row % 2)

theorem digit_zero (t : Tile) : t.digit 0 = t.childDigit := by
  simp [digit, childDigit]

theorem digit_succ (t : Tile) (height : Nat) : t.digit (height + 1) = t.parent.digit height := by
  have hdiv (n : Int) : n / Nat.pow 2 (height + 1) = n.fdiv 2 / Nat.pow 2 height := by
    rw [Int.fdiv_eq_ediv_of_nonneg n (by decide), Int.ediv_ediv_of_nonneg (by decide)]
    congr 1
    simp [Nat.pow_succ, Int.mul_comm]
  rw [digit, digit, hdiv, hdiv]
  rfl

/-- The digits of a tile are those of its parent and one more. -/
theorem digits_succ (t : Tile) (level : Nat) :
    t.digits (level + 1) = t.parent.digits level ++ [t.childDigit] := by
  induction level with
  | zero =>
    change [t.digit 0] = [t.childDigit]
    rw [digit_zero]
  | succ level ih =>
    rw [digits, ih, digit_succ]
    rfl

/-- The name of a tile is the name of its parent and one more digit. -/
theorem name_succ (t : Tile) (level : Nat) :
    t.name (level + 1 : Nat) = t.parent.name level ++ toString t.childDigit := by
  simp only [name, Int.toNat_natCast, digits_succ, List.map_append, String.join_append]
  simp [String.append_assoc]

end Tile

/-! ## The tiles of the deepest level -/

theorem mem_between {first last n : Int} : n ∈ between first last ↔ first ≤ n ∧ n < last := by
  simp only [between, List.mem_map, List.mem_range]
  constructor
  · rintro ⟨i, hi, rfl⟩
    omega
  · intro h
    exact ⟨(n - first).toNat, by omega, by omega⟩

theorem nodup_between (first last : Int) : (between first last).Nodup :=
  List.Pairwise.map _ (fun i j h heq ↦ h (by omega)) List.nodup_range

theorem fdiv_le_iff {a size n : Int} (h : 0 < size) : Int.fdiv a size ≤ n ↔ a < (n + 1) * size := by
  rw [Int.fdiv_eq_ediv_of_nonneg a (Int.le_of_lt h), ← Int.ediv_lt_iff_lt_mul h, Int.lt_add_one_iff]

theorem lt_neg_fdiv_neg_iff {a size n : Int} (h : 0 < size) :
    n < -Int.fdiv (-a) size ↔ n * size < a := by
  have := Int.ediv_lt_iff_lt_mul (a := -a) (b := -n) h
  rw [Int.neg_mul] at this
  rw [Int.fdiv_eq_ediv_of_nonneg (-a) (Int.le_of_lt h)]
  omega

namespace TileJob

variable {job : TileJob} {t : Tile}

/-- The square of a tile. -/
def square (job : TileJob) (t : Tile) : PixelBox :=
  PixelBox.ofSize (job.extent.minX + t.col * job.tileSize) (job.extent.minY + t.row * job.tileSize)
    job.tileSize job.tileSize

/-- A tile can hold the pixels of its square that are in the region. -/
theorem mem_tileBox {x y : Int} :
    (job.tileBox t).Holds x y ↔ (job.square t).Holds x y ∧ job.region.Holds x y :=
  PixelBox.mem_crop

/-- The candidates are the tiles whose squares share pixels with the region. -/
theorem mem_candidates (hsize : 0 < job.tileSize) (hregion : job.region.isEmpty = false) :
    t ∈ job.candidates ↔ (job.tileBox t).isEmpty = false := by
  obtain ⟨hcols, hrows⟩ := PixelBox.not_isEmpty_iff.1 hregion
  have hmem : t ∈ job.candidates ↔
      (job.region.minY - job.extent.minY < (t.row + 1) * job.tileSize ∧
        t.row * job.tileSize < job.region.maxY - job.extent.minY) ∧
      (job.region.minX - job.extent.minX < (t.col + 1) * job.tileSize ∧
        t.col * job.tileSize < job.region.maxX - job.extent.minX) := by
    simp only [candidates, List.mem_flatMap, List.mem_map, mem_between, fdiv_le_iff hsize,
      lt_neg_fdiv_neg_iff hsize]
    constructor
    · rintro ⟨row, hrow, col, hcol, rfl⟩
      exact ⟨hrow, hcol⟩
    · rintro ⟨hrow, hcol⟩
      exact ⟨t.row, hrow, t.col, hcol, rfl⟩
  rw [hmem, ← PixelBox.exists_holds_iff, Int.add_mul, Int.add_mul, Int.one_mul]
  simp only [mem_tileBox]
  simp only [square, PixelBox.ofSize, PixelBox.Holds]
  constructor
  · rintro ⟨hrow, hcol⟩
    -- the greater one of the two least corners is a common pixel
    exact ⟨max (job.extent.minX + t.col * job.tileSize) job.region.minX,
      max (job.extent.minY + t.row * job.tileSize) job.region.minY, by omega⟩
  · rintro ⟨x, y, hxy⟩
    omega

theorem nodup_candidates (job : TileJob) : job.candidates.Nodup := by
  refine List.pairwise_flatMap.2 ⟨fun row _ ↦ ?_, (nodup_between _ _).imp ?_⟩
  · exact List.Pairwise.map _ (fun c d hne h ↦ hne (by injection h)) (nodup_between _ _)
  · intro row row' hne s hs t ht heq
    obtain ⟨c, -, rfl⟩ := List.mem_map.1 hs
    obtain ⟨d, -, rfl⟩ := List.mem_map.1 ht
    exact hne (by injection heq)

variable {α : Type} [Scalar α] {source : TileSource α} {hasAlpha : Bool}

theorem isOccupied_of_isEmpty (h : (job.tileBox t).isEmpty = true) :
    job.isOccupied source hasAlpha t = .ok false := if_pos h

theorem isOccupied_of_not_isEmpty (h : (job.tileBox t).isEmpty = false) :
    job.isOccupied source hasAlpha t = source.read (job.tileBox t) >>= holdsData hasAlpha :=
  if_neg (by rw [h]; decide)

/-- The tiles of the deepest level are there unless the source fails, and are those that hold data,
each once. -/
theorem leaves_cases (hsize : 0 < job.tileSize) (source : TileSource α) (hasAlpha : Bool) :
    (∃ t e, job.isOccupied source hasAlpha t = .error e ∧
      job.leaves source hasAlpha = .error e) ∨
    ∃ leaves, job.leaves source hasAlpha = .ok leaves ∧ leaves.Nodup ∧
      ∀ t, t ∈ leaves ↔ job.isOccupied source hasAlpha t = .ok true := by
  by_cases hregion : job.region.isEmpty = true
  · refine .inr ⟨[], if_pos hregion, List.nodup_nil, ?_⟩
    intro t
    have hempty : (job.tileBox t).isEmpty = true := by
      rw [PixelBox.isEmpty_iff_forall] at hregion ⊢
      exact fun x y hxy ↦ hregion x y (mem_tileBox.1 hxy).2
    rw [isOccupied_of_isEmpty hempty]
    simp
  · have hregion' := Bool.eq_false_iff.2 hregion
    have hleaves : job.leaves source hasAlpha =
        job.candidates.filterM (job.isOccupied source hasAlpha) := by
      unfold leaves
      rw [if_neg hregion, if_neg (by omega)]
    rw [hleaves]
    rcases filterM_cases (job.isOccupied source hasAlpha) job.candidates with
      ⟨t, -, e, he, herror⟩ | hok
    · exact .inl ⟨t, e, he, herror⟩
    · refine .inr ⟨_, hok, (nodup_candidates job).filter _, ?_⟩
      intro t
      rw [List.mem_filter, passes_eq_true, mem_candidates hsize hregion']
      refine ⟨And.right, fun h ↦ ⟨Bool.eq_false_iff.2 fun hempty ↦ ?_, h⟩⟩
      rw [isOccupied_of_isEmpty hempty] at h
      cases h

end TileJob

end QuadMosaic
