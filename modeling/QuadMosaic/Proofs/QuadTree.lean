import Mathlib
import QuadMosaic.Proofs.Tiles

/-!
# The plan is a quad tree

A level is made from the one below by halving coordinates, so it holds a tile exactly when the level
below holds one of its four children.  What ties the levels to the extent is their number.  It is
the logarithm of the span of the extent in tiles, rounded up, and no less will do: the squares of
the deepest level that touch the extent have coordinates below a power of two, each level up halves
the bound, and the root level is left with one tile.
-/

namespace QuadMosaic

/-! ## The number of levels -/

namespace LevelRule

/-- The exact rule finds the least number of doublings of a tile that hold the span. -/
theorem exact_spec {span size : Nat} (hsize : 0 < size) (h : size < span) :
    ∃ k, exact span size = .ok k ∧ span ≤ size * 2 ^ k ∧ ∀ j, span ≤ size * 2 ^ j → k ≤ j := by
  have hceil (m : Nat) : (span + size - 1) / size ≤ m ↔ span ≤ size * m := by
    rw [Nat.div_le_iff_le_mul_add_pred hsize]
    omega
  have hq : 1 < (span + size - 1) / size := by
    rw [← Nat.not_le, hceil, Nat.mul_one]
    omega
  refine ⟨_, rfl, ?_, ?_⟩
  · rw [← hceil]
    have := Nat.lt_log2_self (n := (span + size - 1) / size - 1)
    omega
  · intro j hj
    rw [← hceil] at hj
    have := (Nat.log2_lt (k := j) (n := (span + size - 1) / size - 1) (by omega)).2 (by omega)
    omega

/-- The least number of doublings is the logarithm to the base two, rounded up. -/
theorem ceil_logb_le_iff {span size : Nat} (hsize : 0 < size) (hspan : 0 < span) (k : Nat) :
    ⌈Real.logb 2 (span / size)⌉₊ ≤ k ↔ span ≤ size * 2 ^ k := by
  have hsize' : (0 : ℝ) < size := Nat.cast_pos.2 hsize
  have hspan' : (0 : ℝ) < span := Nat.cast_pos.2 hspan
  rw [Nat.ceil_le, Real.logb_le_iff_le_rpow (by norm_num) (div_pos hspan' hsize'),
    Real.rpow_natCast, div_le_iff₀ hsize', mul_comm]
  exact_mod_cast Iff.rfl

/-- The exact rule is the logarithm of the span in tiles, rounded up. -/
theorem exact_eq_ceil_logb {span size : Nat} (hsize : 0 < size) (h : size < span) :
    exact span size = .ok ⌈Real.logb 2 (span / size)⌉₊ := by
  obtain ⟨k, hk, hle, hleast⟩ := exact_spec hsize h
  rw [hk]
  have hspan : 0 < span := by omega
  congr 1
  exact le_antisymm (hleast _ ((ceil_logb_le_iff hsize hspan _).1 le_rfl))
    ((ceil_logb_le_iff hsize hspan k).2 hle)

end LevelRule

namespace TileJob

/-- The longer side of the extent. -/
def span (job : TileJob) : Int := max job.extent.width job.extent.height

/-- The number of levels, the logarithm computed exactly. -/
noncomputable def levelCount (job : TileJob) : Nat :=
  if job.span ≤ job.tileSize then 1
  else 1 + ⌈Real.logb 2 ((job.span : ℝ) / (job.tileSize : ℝ))⌉₊

variable {job : TileJob}

theorem levelCount_pos (job : TileJob) : 0 < job.levelCount := by
  unfold levelCount
  split <;> omega

theorem levelCount_of_span_le (h : job.span ≤ job.tileSize) : job.levelCount = 1 := if_pos h

theorem levelCount_of_lt_span (hsize : 1 ≤ job.tileSize) (h : job.tileSize < job.span) :
    job.levelCount =
      1 + ⌈Real.logb 2 ((job.span.toNat : ℝ) / (job.tileSize.toNat : ℝ))⌉₊ := by
  have hcast {n : Int} (hn : 0 ≤ n) : ((n.toNat : Nat) : ℝ) = n := by
    exact_mod_cast Int.toNat_of_nonneg hn
  rw [levelCount, if_neg (by omega), hcast (by omega), hcast (by omega)]

theorem treeLevels_exact (hsize : 1 ≤ job.tileSize) :
    treeLevels .exact job.extent job.tileSize = .ok job.levelCount := by
  change (if job.span ≤ job.tileSize then _ else _) = _
  split
  case isTrue h => rw [levelCount_of_span_le h]; rfl
  case isFalse h =>
    have hrule := LevelRule.exact_eq_ceil_logb (by omega : 0 < job.tileSize.toNat)
      (by omega : job.tileSize.toNat < job.span.toNat)
    rw [if_neg fun he ↦ absurd (Coordinate.same_int.1 he) (by omega), if_neg (by omega),
      levelCount_of_lt_span hsize (by omega)]
    change (LevelRule.exact job.span.toNat job.tileSize.toNat >>= fun halvings ↦ _) = _
    rw [hrule]
    rfl

/-- The deepest level spans the extent. -/
theorem span_le (hsize : 1 ≤ job.tileSize) :
    job.span ≤ job.tileSize * 2 ^ (job.levelCount - 1) := by
  by_cases h : job.span ≤ job.tileSize
  · rw [levelCount_of_span_le h]
    omega
  · have hle := (LevelRule.ceil_logb_le_iff (by omega : 0 < job.tileSize.toNat)
      (by omega : 0 < job.span.toNat) _).1 le_rfl
    rw [levelCount_of_lt_span hsize (by omega), Nat.add_sub_cancel_left]
    generalize ⌈Real.logb 2 ((job.span.toNat : ℝ) / (job.tileSize.toNat : ℝ))⌉₊ = k at hle ⊢
    have hle' : (job.span.toNat : Int) ≤ job.tileSize.toNat * 2 ^ k := by exact_mod_cast hle
    rwa [Int.toNat_of_nonneg (by omega), Int.toNat_of_nonneg (by omega)] at hle'

end TileJob

/-! ## Levels -/

namespace Tile

variable {s t : Tile} {leaves : List Tile} {level k n : Nat}

/-- A tile of the pyramid at a level. -/
structure InLevel (t : Tile) (level : Nat) : Prop where
  col_nonneg : 0 ≤ t.col
  col_lt : t.col < 2 ^ level
  row_nonneg : 0 ≤ t.row
  row_lt : t.row < 2 ^ level

/-- The tiles some levels above those of a list. -/
def above (leaves : List Tile) : Nat → List Tile
  | 0 => leaves
  | k + 1 => parents (above leaves k)

theorem above_succ : above leaves (k + 1) = above (parents leaves) k := by
  induction k with
  | zero => rfl
  | succ k ih => rw [above, ih, above]

theorem nodup_above (h : leaves.Nodup) (k : Nat) : (above leaves k).Nodup := by
  cases k with
  | zero => exact h
  | succ k => exact nodup_parents

theorem InLevel.parent (h : s.InLevel (level + 1)) : s.parent.InLevel level := by
  obtain ⟨hcol, hcol', hrow, hrow'⟩ := h
  obtain ⟨hc, hr⟩ := parent_eq_iff.1 (rfl : s.parent = s.parent)
  rw [Int.pow_succ] at hcol' hrow'
  constructor <;> omega

/-- Each level up halves the bound of the coordinates. -/
theorem inLevel_of_mem_above (h : ∀ t ∈ leaves, t.InLevel (level + k)) (ht : t ∈ above leaves k) :
    t.InLevel level := by
  induction k generalizing level t with
  | zero => exact h t ht
  | succ k ih =>
    obtain ⟨s, hs, rfl⟩ := mem_parents.1 ht
    exact (ih (by rwa [Nat.add_right_comm] ) hs).parent

/-- There is one tile at the root level. -/
theorem InLevel.eq_root (h : t.InLevel 0) : t = ⟨0, 0⟩ := by
  obtain ⟨hcol, hcol', hrow, hrow'⟩ := h
  obtain ⟨col, row⟩ := t
  simp only [Int.pow_zero, mk.injEq] at hcol hcol' hrow hrow' ⊢
  omega

theorem eq_singleton {tiles : List Tile} (hnodup : tiles.Nodup) (h : ∀ s ∈ tiles, s = t)
    (hne : tiles ≠ []) : tiles = [t] := by
  match tiles, hne with
  | [s], _ => rw [h s List.mem_cons_self]
  | s :: u :: rest, _ =>
    have hs := h s List.mem_cons_self
    have hu := h u (List.mem_cons_of_mem s List.mem_cons_self)
    exact absurd (hs.trans hu.symm) ((List.pairwise_cons.1 hnodup).1 u List.mem_cons_self)

theorem above_eq_nil_iff : above leaves k = [] ↔ leaves = [] := by
  induction k with
  | zero => exact Iff.rfl
  | succ k ih =>
    rw [← ih, above]
    constructor <;> intro h <;> rw [List.eq_nil_iff_forall_not_mem] at h ⊢
    · exact fun s hs ↦ h s.parent (mem_parents.2 ⟨s, hs, rfl⟩)
    · intro t ht
      obtain ⟨s, hs, -⟩ := mem_parents.1 ht
      exact h s hs

theorem length_levelsUp : (levelsUp leaves n).length = n := by
  induction n generalizing leaves with
  | zero => rfl
  | succ n ih => rw [levelsUp, List.length_cons, ih]

theorem getElem?_levelsUp (h : k < n) : (levelsUp leaves n)[k]? = some (above leaves k) := by
  induction n generalizing leaves k with
  | zero => cases h
  | succ n ih =>
    cases k with
    | zero => rfl
    | succ k => rw [levelsUp, List.getElem?_cons_succ, ih (by omega), above_succ]

end Tile

namespace TilePlan

/-- The tiles of a plan at a level. -/
def level (plan : TilePlan) (l : Nat) : List Tile := plan.levels.getD l []

/-- A plan whose levels are those of a quad tree. -/
structure IsQuadTree (plan : TilePlan) : Prop where
  inLevel : ∀ l < plan.levels.length, ∀ t ∈ plan.level l,
    (0 ≤ t.col ∧ t.col < 2 ^ l) ∧ 0 ≤ t.row ∧ t.row < 2 ^ l
  nodup : ∀ l, (plan.level l).Nodup
  /-- A tile is listed exactly when one of its four children is. -/
  child : ∀ l, l + 1 < plan.levels.length → ∀ t, t ∈ plan.level l ↔
    ∃ s ∈ plan.level (l + 1), (s.col = 2 * t.col ∨ s.col = 2 * t.col + 1) ∧
      (s.row = 2 * t.row ∨ s.row = 2 * t.row + 1)
  root : plan.level 0 = if plan.level (plan.levels.length - 1) = [] then [] else [⟨0, 0⟩]
  /-- The name of a tile is the name of its parent and a digit. -/
  name : ∀ l, l + 1 < plan.levels.length → ∀ s ∈ plan.level (l + 1), ∃ t ∈ plan.level l,
    ((s.col = 2 * t.col ∨ s.col = 2 * t.col + 1) ∧ (s.row = 2 * t.row ∨ s.row = 2 * t.row + 1)) ∧
      s.name (l + 1 : Nat) = t.name l ++ toString (s.col % 2 + 2 * (s.row % 2))

variable {leaves : List Tile} {n l : Nat}

/-- The plan that some tiles of the deepest level lead to. -/
theorem level_mk (h : l < n) :
    level ⟨(levelsUp leaves n).reverse⟩ l = Tile.above leaves (n - 1 - l) := by
  rw [level, List.getD_eq_getElem?_getD, List.getElem?_reverse (by rwa [Tile.length_levelsUp]),
    Tile.length_levelsUp, Tile.getElem?_levelsUp (by omega)]
  rfl

/-- Tiles that lie in the deepest level lead to a quad tree. -/
theorem isQuadTree_mk (hn : 0 < n) (hnodup : leaves.Nodup)
    (hleaves : ∀ t ∈ leaves, t.InLevel (n - 1)) :
    IsQuadTree ⟨(levelsUp leaves n).reverse⟩ := by
  have hlength : (levelsUp leaves n).reverse.length = n := by
    rw [List.length_reverse, Tile.length_levelsUp]
  have hin {l : Nat} {t : Tile} (hl : l < n) (ht : t ∈ level ⟨(levelsUp leaves n).reverse⟩ l) :
      t.InLevel l := by
    rw [level_mk hl] at ht
    exact Tile.inLevel_of_mem_above (by rwa [show l + (n - 1 - l) = n - 1 by omega]) ht
  have hparents {l : Nat} (hl : l + 1 < n) : level ⟨(levelsUp leaves n).reverse⟩ l =
      Tile.parents (level ⟨(levelsUp leaves n).reverse⟩ (l + 1)) := by
    rw [level_mk hl, level_mk (by omega), show n - 1 - l = n - 1 - (l + 1) + 1 by omega, Tile.above]
  constructor
  case inLevel =>
    intro l hl t ht
    obtain ⟨hcol, hcol', hrow, hrow'⟩ := hin (by rwa [hlength] at hl) ht
    exact ⟨⟨hcol, hcol'⟩, hrow, hrow'⟩
  case nodup =>
    intro l
    by_cases hl : l < n
    · rw [level_mk hl]
      exact Tile.nodup_above hnodup _
    · rw [level, List.getD_eq_default _ _ (by rw [hlength]; omega)]
      exact List.nodup_nil
  case child =>
    intro l hl t
    rw [hparents (by rwa [hlength] at hl), Tile.mem_parents]
    simp only [Tile.parent_eq_iff]
  case root =>
    have hroot : ∀ t ∈ level ⟨(levelsUp leaves n).reverse⟩ 0, t = ⟨0, 0⟩ :=
      fun t ht ↦ (hin hn ht).eq_root
    rw [hlength, level_mk (by omega : n - 1 < n), Nat.sub_self]
    rw [level_mk hn] at hroot ⊢
    by_cases hempty : leaves = []
    · rw [Tile.above_eq_nil_iff.2 hempty]
      exact (if_pos hempty).symm
    · refine (Tile.eq_singleton (Tile.nodup_above hnodup _) hroot fun h ↦ ?_).trans
        (if_neg hempty).symm
      exact hempty (Tile.above_eq_nil_iff.1 h)
  case name =>
    intro l hl s hs
    refine ⟨s.parent, ?_, Tile.parent_eq_iff.1 rfl, Tile.name_succ s l⟩
    rw [hparents (by rwa [hlength] at hl)]
    exact Tile.mem_parents.2 ⟨s, hs, rfl⟩

end TilePlan

/-! ## The plan of a job -/

/-- A stretch of `size` coordinates that touches an interval no longer than `n` of them. -/
theorem stretch_bounds {size lo hi c x n : Int} (hsize : 0 < size) (hlo : lo ≤ x) (hhi : x < hi)
    (hx : lo + c * size ≤ x) (hx' : x < lo + c * size + size) (hspan : hi - lo ≤ size * n) :
    0 ≤ c ∧ c < n := by
  have hlower : -1 * size < c * size := by omega
  have hupper : size * c < size * n := by
    rw [mul_comm size c]
    omega
  have := lt_of_mul_lt_mul_right hlower (le_of_lt hsize)
  have := lt_of_mul_lt_mul_left hupper (le_of_lt hsize)
  omega

namespace TileJob

variable {job : TileJob} {t : Tile}

/-- The tiles that can hold data lie in the deepest level. -/
theorem inLevel_of_tileBox (hsize : 1 ≤ job.tileSize) (h : (job.tileBox t).isEmpty = false) :
    t.InLevel (job.levelCount - 1) := by
  obtain ⟨x, y, hxy⟩ := PixelBox.exists_holds_iff.2 h
  obtain ⟨hsquare, hregion⟩ := mem_tileBox.1 hxy
  have hextent := (PixelBox.mem_crop.1 hregion).2
  have hspan := span_le hsize
  unfold span at hspan
  rw [PixelBox.width_eq, PixelBox.height_eq] at hspan
  simp only [square, PixelBox.ofSize, PixelBox.Holds] at hsquare hextent
  obtain ⟨hx, hx', hy, hy'⟩ := hsquare
  obtain ⟨hleft, hright, htop, hbottom⟩ := hextent
  obtain ⟨hcol, hcol'⟩ := stretch_bounds (n := 2 ^ (job.levelCount - 1)) (by omega) hleft hright
    hx hx' (by omega)
  obtain ⟨hrow, hrow'⟩ := stretch_bounds (n := 2 ^ (job.levelCount - 1)) (by omega) htop hbottom
    hy hy' (by omega)
  exact ⟨hcol, hcol', hrow, hrow'⟩

variable {α : Type} [Scalar α] {source : TileSource α} {hasAlpha : Bool}

/-- Looking at a tile fails only when its pixels cannot be read or have no band for transparency. -/
theorem isOccupied_eq_error {e : Fault} (h : job.isOccupied source hasAlpha t = .error e) :
    source.read (job.tileBox t) = .error e ∨
      hasAlpha = true ∧ e = .value .noSuchIndex ∧
        ∃ pixels, source.read (job.tileBox t) = .ok pixels ∧ pixels.bands = 0 := by
  unfold isOccupied at h
  split at h
  case isTrue => cases h
  case isFalse =>
    rcases cases_of_bind_eq_error h with herror | ⟨pixels, hread, h⟩
    · exact .inl herror
    · right
      unfold holdsData at h
      split at h
      · cases h
      · split at h
        · cases h
          exact ⟨by simpa using ‹¬ (!hasAlpha) = true›, rfl, pixels, hread, ‹_›⟩
        · cases h

end TileJob

namespace TilePlan

/-- Whatever rule counts them, there is some level. -/
theorem treeLevels_pos {rule : LevelRule} {extent : PixelBox} {size n : Int}
    (h : treeLevels rule extent size = .ok n) : 0 < n := by
  unfold treeLevels at h
  simp only at h
  split at h
  · cases h
    decide
  · split at h
    · cases h
    · split at h
      · cases h
      · obtain ⟨halvings, -, h⟩ := exists_of_bind_eq_ok h
        cases h
        omega

/-- A plan is made of the tiles found and the number of levels. -/
theorem ofJob_eq_ok_iff {α : Type} [Scalar α] {rule : LevelRule} {job : TileJob}
    {source : TileSource α} {plan : TilePlan} : ofJob rule job source = .ok plan ↔
      ∃ n leaves, treeLevels rule job.extent job.tileSize = .ok n ∧
        job.leaves source source.hasAlpha = .ok leaves ∧
        plan = ⟨(levelsUp leaves n.toNat).reverse⟩ := by
  constructor
  · intro h
    obtain ⟨n, hlevels, h⟩ := exists_of_bind_eq_ok h
    obtain ⟨leaves, hleaves, h⟩ := exists_of_bind_eq_ok h
    cases h
    exact ⟨n, leaves, hlevels, hleaves, rfl⟩
  · rintro ⟨n, leaves, hlevels, hleaves, rfl⟩
    unfold ofJob
    rw [bind_of_eq_ok hlevels, bind_of_eq_ok hleaves]
    rfl

/-- Whatever rule counts the levels, the deepest one lists the tiles that hold data. -/
theorem mem_deepest_of_ofJob {α : Type} [Scalar α] {rule : LevelRule} {job : TileJob}
    {source : TileSource α} {plan : TilePlan} (hsize : 0 < job.tileSize)
    (h : ofJob rule job source = .ok plan) (t : Tile) :
    t ∈ plan.level (plan.levels.length - 1) ↔
      job.isOccupied source source.hasAlpha t = .ok true := by
  obtain ⟨n, leaves, hlevels, hleaves, rfl⟩ := ofJob_eq_ok_iff.1 h
  have hpos := treeLevels_pos hlevels
  rw [List.length_reverse, Tile.length_levelsUp, level_mk (by omega), Nat.sub_self]
  rcases TileJob.leaves_cases hsize source source.hasAlpha with
    ⟨u, e, -, herror⟩ | ⟨leaves', hok, -, hmem⟩
  · cases herror.symm.trans hleaves
  · cases hok.symm.trans hleaves
    exact hmem t

/-- The written levels, from the root down: each with its number, how many tiles it has, and each
tile by its column, its row and its name. -/
theorem toJson_levels (plan : TilePlan) :
    (plan.levels.zipIdx.map fun (tiles, l) ↦ levelToJson l tiles) =
      (List.range plan.levels.length).map fun (l : Nat) ↦ .obj [("level", .int l),
        ("tile_count", .int (plan.level l).length),
        ("tiles", .arr ((plan.level l).map fun t ↦
          .obj [("col", .int t.col), ("row", .int t.row), ("name", .str (t.name l))]))] := by
  refine List.ext_getElem (by simp) fun l hl hl' ↦ ?_
  simp only [List.length_map, List.length_zipIdx] at hl
  simp [level, hl, levelToJson, Json.ofList, Tile.toJson]

/-- The plan of a job is a quad tree, for every source of pixels.  It fails only when the source
does.  Otherwise its levels are as many as the logarithm of the extent in tiles says, the deepest
one lists the tiles that hold data, and the levels are written in order from the root down: each
with its number, how many tiles it has, and each tile by its column, its row and its name. -/
theorem ofJob_isQuadTree {α : Type} [Scalar α] (job : TileJob) (source : TileSource α)
    (hsize : 1 ≤ job.tileSize) :
    (∃ e, ofJob .exact job source = .error e ∧ ∃ window, source.read window = .error e ∨
      source.hasAlpha = true ∧ e = .value .noSuchIndex ∧
        ∃ pixels, source.read window = .ok pixels ∧ pixels.bands = 0) ∨
    ∃ plan, ofJob .exact job source = .ok plan ∧ plan.IsQuadTree ∧
      plan.levels.length = job.levelCount ∧
      treeLevels .exact job.extent job.tileSize = .ok plan.levels.length ∧
      (∀ t, t ∈ plan.level (plan.levels.length - 1) ↔
        job.isOccupied source source.hasAlpha t = .ok true) ∧
      plan.tileCount = (plan.levels.map List.length).sum ∧
      ∃ fields : Fields, plan.toJson job = .obj fields ∧
        Fields.get? fields "tree_levels" = some (.int plan.levels.length) ∧
        Fields.get? fields "tile_count" = some (.int plan.tileCount) ∧
        Fields.get? fields "levels" = some (.arr ((List.range plan.levels.length).map
          fun (l : Nat) ↦ .obj [("level", .int l), ("tile_count", .int (plan.level l).length),
            ("tiles", .arr ((plan.level l).map fun t ↦
              .obj [("col", .int t.col), ("row", .int t.row), ("name", .str (t.name l))]))])) := by
  have hsize' : 0 < job.tileSize := by omega
  have hlevels := TileJob.treeLevels_exact hsize
  have hpos := job.levelCount_pos
  have hplan : ofJob .exact job source = job.leaves source source.hasAlpha >>= fun leaves ↦
      .ok ⟨(levelsUp leaves job.levelCount).reverse⟩ := by
    unfold ofJob
    rw [hlevels]
    rfl
  rcases TileJob.leaves_cases hsize' source source.hasAlpha with
    ⟨t, e, he, herror⟩ | ⟨leaves, hok, hnodup, hmem⟩
  · left
    refine ⟨e, ?_, job.tileBox t, TileJob.isOccupied_eq_error he⟩
    rw [hplan, herror]
    rfl
  · right
    have hleaves : ∀ t ∈ leaves, t.InLevel (job.levelCount - 1) := by
      intro t ht
      refine TileJob.inLevel_of_tileBox hsize (Bool.eq_false_iff.2 fun hempty ↦ ?_)
      have hoccupied := (hmem t).1 ht
      rw [TileJob.isOccupied_of_isEmpty hempty] at hoccupied
      cases hoccupied
    have hlength : (levelsUp leaves job.levelCount).reverse.length = job.levelCount := by
      rw [List.length_reverse, Tile.length_levelsUp]
    have hplan' : ofJob .exact job source = .ok ⟨(levelsUp leaves job.levelCount).reverse⟩ := by
      rw [hplan, hok]
      rfl
    refine ⟨_, hplan', isQuadTree_mk hpos hnodup hleaves, hlength, ?_,
      mem_deepest_of_ofJob hsize' hplan', List.length_flatten, _, rfl, rfl, rfl, ?_⟩
    · rw [hlevels, hlength]
    · rw [← toJson_levels]
      rfl

/-- A job of sixteen tiles of which the upper half can hold data. -/
def upperHalf : TileJob where
  outputName := .str "world"
  profile := .kml
  extent := ⟨0, 0, 1024, 1024⟩
  crop := ⟨0, 0, 1024, 512⟩
  tileSize := 256
  fileType := "png"

/-- Pixels without transparency. -/
def solid : TileSource Rat where
  box := ⟨0, 0, 1024, 1024⟩
  hasAlpha := false
  read window := .ok (Raster.zeros 1 window.height.toNat window.width.toNat)

theorem ofJob_isQuadTree_upperHalf :
    ∃ plan, ofJob .exact upperHalf solid = .ok plan ∧ plan.IsQuadTree ∧
      plan.level 0 = [⟨0, 0⟩] ∧ ∃ fields deeper, plan.toJson upperHalf = .obj fields ∧
        Fields.get? fields "tree_levels" = some (.int 3) ∧
        Fields.get? fields "levels" = some (.arr (.obj [("level", .int 0), ("tile_count", .int 1),
          ("tiles", .arr [.obj [("col", .int 0), ("row", .int 0), ("name", .str "r")]])] ::
            deeper)) := by
  rcases ofJob_isQuadTree upperHalf solid (by decide) with
    ⟨e, -, window, hread | ⟨halpha, -⟩⟩ |
      ⟨plan, hok, htree, -, hcount, hleaves, -, fields, hfields, hlevels, -, hwritten⟩
  · cases hread
  · cases halpha
  · have hthree : treeLevels .exact upperHalf.extent upperHalf.tileSize = .ok 3 := rfl
    have hlength : (plan.levels.length : Int) = 3 := Except.ok.inj (hcount.symm.trans hthree)
    have hroot : plan.level 0 = [⟨0, 0⟩] := by
      refine htree.root.trans (if_neg fun hempty ↦ ?_)
      have hfirst := (hleaves ⟨0, 0⟩).2 rfl
      rw [hempty] at hfirst
      cases hfirst
    rw [hlength] at hlevels
    rw [Int.ofNat_inj.1 hlength, List.range_succ_eq_map, List.map_cons, hroot] at hwritten
    exact ⟨plan, hok, htree, hroot, fields, _, hfields, hlevels, hwritten⟩

end TilePlan

end QuadMosaic
