import Mathlib
import QuadMosaic.Georeference.Transfer
import QuadMosaic.Proofs.Boxes
import QuadMosaic.Proofs.Inverses

/-!
# Boxes carried by affine maps

A box of source pixels is carried to the destination by a grid of sample points.  Between two
georeferences of one reference system the pixels are moved by a single affine map, however it turns,
shears or flips them.  Along each axis such a map takes its least and its greatest value over a
rectangle at corners, and the grid holds the corners; so the bounds of the samples are the bounds of
the whole image.  What is left is the rounding to integers, which hides a slack on every side.

All of this is about exact numbers.
-/

namespace QuadMosaic

/-! ## Points of boxes -/

/-- All points that the pixels of a box cover, its edges included. -/
def PixelBox.region (b : PixelBox) : Set (Point Rat) :=
  {p | (b.minX ≤ p.x ∧ p.x ≤ b.maxX) ∧ b.minY ≤ p.y ∧ p.y ≤ b.maxY}

/-- The corners of a box. -/
def PixelBox.cornerPoints (b : PixelBox) : Set (Point Rat) :=
  {p | (p.x = b.minX ∨ p.x = b.maxX) ∧ (p.y = b.minY ∨ p.y = b.maxY)}

/-- A multiple is least at an end. -/
theorem exists_end_le (a : Rat) {low high x : Rat} (hlow : low ≤ x) (hhigh : x ≤ high) :
    ∃ u, (u = low ∨ u = high) ∧ a * u ≤ a * x := by
  rcases le_total 0 a with ha | ha
  · exact ⟨low, .inl rfl, mul_le_mul_of_nonneg_left hlow ha⟩
  · exact ⟨high, .inr rfl, mul_le_mul_of_nonpos_left hhigh ha⟩

/-- A sum of multiples of the coordinates is least at a corner. -/
theorem PixelBox.exists_corner_le (b : PixelBox) (u v : Rat) {p : Point Rat} (hp : p ∈ b.region) :
    ∃ q ∈ b.cornerPoints, u * q.x + v * q.y ≤ u * p.x + v * p.y := by
  obtain ⟨⟨hleft, hright⟩, htop, hbottom⟩ := hp
  obtain ⟨x, hx, hux⟩ := exists_end_le u hleft hright
  obtain ⟨y, hy, hvy⟩ := exists_end_le v htop hbottom
  exact ⟨⟨x, y⟩, ⟨hx, hy⟩, add_le_add hux hvy⟩

/-- It is greatest at a corner, too. -/
theorem PixelBox.exists_le_corner (b : PixelBox) (u v : Rat) {p : Point Rat} (hp : p ∈ b.region) :
    ∃ q ∈ b.cornerPoints, u * p.x + v * p.y ≤ u * q.x + v * q.y := by
  obtain ⟨q, hq, hle⟩ := b.exists_corner_le (-u) (-v) hp
  exact ⟨q, hq, by linarith⟩

namespace Transfer

/-! ## The sample points -/

section

variable {start stop : Rat} {n : Nat}

theorem start_mem_spaced (hn : 2 ≤ n) : start ∈ spaced start stop n :=
  List.mem_map.2 ⟨0, List.mem_range.2 (by omega), if_pos rfl⟩

theorem stop_mem_spaced (hn : 2 ≤ n) : stop ∈ spaced start stop n := by
  refine List.mem_map.2 ⟨n - 1, List.mem_range.2 (by omega), ?_⟩
  rw [if_neg (by omega), if_pos (by omega)]

/-- Evenly spaced numbers lie between the ends. -/
theorem bounds_of_mem_spaced (h : start ≤ stop) {x : Rat} (hx : x ∈ spaced start stop n) :
    start ≤ x ∧ x ≤ stop := by
  obtain ⟨i, hi, rfl⟩ := List.mem_map.1 hx
  split
  · exact ⟨le_refl _, h⟩
  · split
    · exact ⟨h, le_refl _⟩
    · -- part `i` of `n - 1` equal parts, of which there is at least one more
      have hin : i + 1 < n := by have := List.mem_range.1 hi; omega
      have hparts : (0 : Rat) < ((n : Int) - 1 : Int) := by
        rw [Int.cast_pos]
        omega
      have hwhole : (i : Rat) ≤ ((n : Int) - 1 : Int) := by
        rw [← Int.cast_natCast, Int.cast_le]
        omega
      have hstep : (Scalar.ofInt i * ((stop - start) / Scalar.ofInt ((n : Int) - 1)) : Rat) =
          i / ((n : Int) - 1 : Int) * (stop - start) := by
        change ((i : Int) : Rat) * ((stop - start) / (((n : Int) - 1 : Int) : Rat)) = _
        rw [Int.cast_natCast]
        ring
      have hlow : (0 : Rat) ≤ i / ((n : Int) - 1 : Int) := by positivity
      have hhigh : (i / ((n : Int) - 1 : Int) : Rat) ≤ 1 := (div_le_one hparts).2 hwhole
      have hspan : 0 ≤ stop - start := sub_nonneg.2 h
      have hsome := mul_nonneg hlow hspan
      have hmost := mul_le_of_le_one_left hspan hhigh
      rw [hstep]
      constructor <;> linarith

end

/-- The sample points of a box. -/
def gridOf (b : PixelBox) (samples : Nat) : List (Point Rat) :=
  grid ⟨(b.minX : Rat), (b.minY : Rat)⟩ ⟨(b.maxX : Rat), (b.maxY : Rat)⟩ samples

/-- The sample points of a box lie in it, and its corners are among them. -/
theorem gridOf_between {b : PixelBox} (hb : b.isEmpty = false) {samples : Nat}
    (hsamples : 2 ≤ samples) : b.cornerPoints ⊆ {p | p ∈ gridOf b samples} ∧
      {p | p ∈ gridOf b samples} ⊆ b.region := by
  obtain ⟨hx, hy⟩ := PixelBox.not_isEmpty_iff.1 hb
  have hx' : (b.minX : Rat) ≤ b.maxX := Int.cast_le.2 (by omega)
  have hy' : (b.minY : Rat) ≤ b.maxY := Int.cast_le.2 (by omega)
  constructor
  · rintro ⟨x, y⟩ ⟨hcolumn, hrow⟩
    refine List.mem_flatMap.2 ⟨y, ?_, List.mem_map.2 ⟨x, ?_, rfl⟩⟩
    · rcases hrow with rfl | rfl
      · exact start_mem_spaced hsamples
      · exact stop_mem_spaced hsamples
    · rcases hcolumn with rfl | rfl
      · exact start_mem_spaced hsamples
      · exact stop_mem_spaced hsamples
  · intro p hp
    obtain ⟨y, hrow, hp⟩ := List.mem_flatMap.1 hp
    obtain ⟨x, hcolumn, rfl⟩ := List.mem_map.1 hp
    exact ⟨bounds_of_mem_spaced hx' hcolumn, bounds_of_mem_spaced hy' hrow⟩

/-! ## Bounds of sets of points -/

namespace Extremes

/-- Real bounds leave out no point of a set and touch it on every side. -/
structure Bounds (e : Extremes Rat) (s : Set (Point Rat)) : Prop where
  left : IsLeast (Point.x '' s) e.minX
  top : IsLeast (Point.y '' s) e.minY
  right : IsGreatest (Point.x '' s) e.maxX
  bottom : IsGreatest (Point.y '' s) e.maxY

variable {e : Extremes Rat} {s : Set (Point Rat)}

theorem lesser_eq_min (x y : Rat) : Scalar.lesser x y = min x y := by
  change (if decide (y < x) = true then y else x) = _
  rcases lt_or_ge y x with h | h
  · rw [if_pos (decide_eq_true h), min_eq_right h.le]
  · rw [if_neg (by simpa using h), min_eq_left h]

theorem greater_eq_max (x y : Rat) : Scalar.greater x y = max x y := by
  change (if decide (x < y) = true then y else x) = _
  rcases lt_or_ge x y with h | h
  · rw [if_pos (decide_eq_true h), max_eq_right h.le]
  · rw [if_neg (by simpa using h), max_eq_left h]

theorem bounds_singleton (p : Point Rat) : (⟨p.x, p.y, p.x, p.y⟩ : Extremes Rat).Bounds {p} := by
  constructor <;> simp

/-- Bounds widened to a point are those of one more point. -/
theorem Bounds.widen (h : e.Bounds s) (p : Point Rat) : (e.widen p).Bounds (insert p s) := by
  unfold Extremes.widen
  simp only [lesser_eq_min, greater_eq_max, min_comm _ p.x, min_comm _ p.y, max_comm _ p.x,
    max_comm _ p.y]
  constructor <;> rw [Set.image_insert_eq]
  · exact h.left.insert p.x
  · exact h.top.insert p.y
  · exact h.right.insert p.x
  · exact h.bottom.insert p.y

theorem Bounds.foldl_widen (h : e.Bounds s) (points : List (Point Rat)) :
    (points.foldl Extremes.widen e).Bounds (s ∪ {p | p ∈ points}) := by
  induction points generalizing e s with
  | nil => simpa using h
  | cons p points ih =>
    have hset : s ∪ {q | q ∈ p :: points} = insert p s ∪ {q | q ∈ points} := by
      ext q
      simp [or_left_comm, or_assoc]
    rw [List.foldl_cons, hset]
    exact ih (h.widen p)

/-- The bounds of points that there are. -/
theorem exists_bounds {points : List (Point Rat)} (h : points ≠ []) :
    ∃ e, extremes? points = some e ∧ e.Bounds {p | p ∈ points} := by
  cases points with
  | nil => exact absurd rfl h
  | cons p points =>
    refine ⟨_, rfl, ?_⟩
    have hset : {q | q ∈ p :: points} = {p} ∪ {q | q ∈ points} := by
      ext q
      simp
    rw [hset]
    exact (bounds_singleton p).foldl_widen points

/-- The least value over a part of a set is that over the whole set when each point has one in the
part with a value as low. -/
theorem isLeast_image_of_subset {γ : Type} [Preorder γ] {f : Point Rat → γ}
    {s t : Set (Point Rat)} {x : γ} (hst : s ⊆ t) (hlow : ∀ p ∈ t, ∃ q ∈ s, f q ≤ f p)
    (h : IsLeast (f '' s) x) : IsLeast (f '' t) x := by
  refine ⟨Set.image_mono hst h.1, ?_⟩
  rintro _ ⟨p, hp, rfl⟩
  obtain ⟨q, hq, hqp⟩ := hlow p hp
  exact (h.2 ⟨q, hq, rfl⟩).trans hqp

theorem isGreatest_image_of_subset {γ : Type} [Preorder γ] {f : Point Rat → γ}
    {s t : Set (Point Rat)} {x : γ} (hst : s ⊆ t) (hhigh : ∀ p ∈ t, ∃ q ∈ s, f p ≤ f q)
    (h : IsGreatest (f '' s) x) : IsGreatest (f '' t) x :=
  isLeast_image_of_subset (γ := OrderDual γ) hst hhigh h

/-- The bounds of the images of some points of a box, its corners among them, are those of the image
of the whole box. -/
theorem Bounds.of_corners {m : Affine Rat} {b : PixelBox} (hcorners : b.cornerPoints ⊆ s)
    (hregion : s ⊆ b.region) (h : e.Bounds (m.apply '' s)) : e.Bounds (m.apply '' b.region) := by
  obtain ⟨hleft, htop, hright, hbottom⟩ := h
  rw [Set.image_image] at hleft htop hright hbottom
  constructor <;> rw [Set.image_image]
  case left =>
    refine isLeast_image_of_subset hregion (fun p hp ↦ ?_) hleft
    obtain ⟨q, hq, hle⟩ := b.exists_corner_le m.a m.b hp
    exact ⟨q, hcorners hq, add_le_add_left hle m.c⟩
  case top =>
    refine isLeast_image_of_subset hregion (fun p hp ↦ ?_) htop
    obtain ⟨q, hq, hle⟩ := b.exists_corner_le m.d m.e hp
    exact ⟨q, hcorners hq, add_le_add_left hle m.f⟩
  case right =>
    refine isGreatest_image_of_subset hregion (fun p hp ↦ ?_) hright
    obtain ⟨q, hq, hle⟩ := b.exists_le_corner m.a m.b hp
    exact ⟨q, hcorners hq, add_le_add_left hle m.c⟩
  case bottom =>
    refine isGreatest_image_of_subset hregion (fun p hp ↦ ?_) hbottom
    obtain ⟨q, hq, hle⟩ := b.exists_le_corner m.d m.e hp
    exact ⟨q, hcorners hq, add_le_add_left hle m.f⟩

/-! ## Rounding bounds to integers -/

/-- The rectangle between bounds, without a margin on every side. -/
def inner (e : Extremes Rat) (margin : Rat) : Set (Point Rat) :=
  {p | (e.minX + margin ≤ p.x ∧ p.x ≤ e.maxX - margin) ∧
    e.minY + margin ≤ p.y ∧ p.y ≤ e.maxY - margin}

/-- The integer box around bounds without such a margin. -/
def outline (e : Extremes Rat) (margin : Rat) : PixelBox :=
  ⟨(e.minX + margin).floor, (e.minY + margin).floor, (e.maxX - margin).ceil,
    (e.maxY - margin).ceil⟩

variable {margin : Rat}

theorem around_eq (e : Extremes Rat) (margin : Rat) :
    PixelBox.around margin e.minX e.minY e.maxX e.maxY = .ok (e.outline margin) := rfl

/-- The outline of bounds leaves them by the margin at most. -/
theorem outline_near (e : Extremes Rat) (margin : Rat) :
    ((e.outline margin).minX ≤ e.minX + margin ∧ e.maxX - margin ≤ (e.outline margin).maxX) ∧
      (e.outline margin).minY ≤ e.minY + margin ∧ e.maxY - margin ≤ (e.outline margin).maxY :=
  ⟨⟨Rat.floor_le _, Rat.le_ceil⟩, Rat.floor_le _, Rat.le_ceil⟩

theorem inner_subset_outline (e : Extremes Rat) (margin : Rat) :
    e.inner margin ⊆ (e.outline margin).region := by
  rintro p ⟨⟨hleft, hright⟩, htop, hbottom⟩
  obtain ⟨⟨hminX, hmaxX⟩, hminY, hmaxY⟩ := e.outline_near margin
  exact ⟨⟨hminX.trans hleft, hright.trans hmaxX⟩, hminY.trans htop, hbottom.trans hmaxY⟩

/-- No smaller box has the rectangle inside it, when there is one. -/
theorem outline_subset_of_inner_subset (hx : e.minX + margin ≤ e.maxX - margin)
    (hy : e.minY + margin ≤ e.maxY - margin) {other : PixelBox}
    (h : e.inner margin ⊆ other.region) : (e.outline margin).region ⊆ other.region := by
  -- the two opposite corners of the rectangle
  obtain ⟨⟨hminX, -⟩, hminY, -⟩ :=
    h (⟨⟨le_refl _, hx⟩, le_refl _, hy⟩ : ⟨e.minX + margin, e.minY + margin⟩ ∈ e.inner margin)
  obtain ⟨⟨-, hmaxX⟩, -, hmaxY⟩ :=
    h (⟨⟨hx, le_refl _⟩, hy, le_refl _⟩ : ⟨e.maxX - margin, e.maxY - margin⟩ ∈ e.inner margin)
  rintro p ⟨⟨hleft, hright⟩, htop, hbottom⟩
  have hleft' : other.minX ≤ (e.outline margin).minX := Rat.le_floor_iff.2 hminX
  have htop' : other.minY ≤ (e.outline margin).minY := Rat.le_floor_iff.2 hminY
  have hright' : (e.outline margin).maxX ≤ other.maxX := Rat.ceil_le_iff.2 hmaxX
  have hbottom' : (e.outline margin).maxY ≤ other.maxY := Rat.ceil_le_iff.2 hmaxY
  exact ⟨⟨(Int.cast_le.2 hleft').trans hleft, hright.trans (Int.cast_le.2 hright')⟩,
    (Int.cast_le.2 htop').trans htop, hbottom.trans (Int.cast_le.2 hbottom')⟩

/-- A margin of less than one is not seen beside an integer. -/
theorem floor_add_margin (h : 0 ≤ margin) (h' : margin < 1) (n : Int) :
    ((n : Rat) + margin).floor = n := by
  refine le_antisymm ?_ (Rat.le_floor_iff.2 (by linarith))
  have hlt : ((n : Rat) + margin).floor < n + 1 := by
    rw [← Int.cast_lt (R := Rat)]
    exact (Rat.floor_le _).trans_lt (by push_cast; linarith)
  omega

theorem ceil_sub_margin (h : 0 ≤ margin) (h' : margin < 1) (n : Int) :
    ((n : Rat) - margin).ceil = n := by
  refine le_antisymm (Rat.ceil_le_iff.2 (by linarith)) ?_
  have hlt : n - 1 < ((n : Rat) - margin).ceil := by
    rw [← Int.cast_lt (R := Rat)]
    exact lt_of_lt_of_le (by push_cast; linarith) Rat.le_ceil
  omega

theorem outline_of_integers (h : 0 ≤ margin) (h' : margin < 1) (left top right bottom : Int) :
    outline ⟨left, top, right, bottom⟩ margin = ⟨left, top, right, bottom⟩ := by
  simp only [outline, floor_add_margin h h', ceil_sub_margin h h']

end Extremes

/-! ## The box of the image -/

section

variable {t : Transfer Rat} {project : Projector Rat} {b : PixelBox} {samples : Nat}

/-- Two maps after each other are one. -/
theorem Affine.apply_compose (outer inner : Affine Rat) (p : Point Rat) :
    (outer.compose inner).apply p = outer.apply (inner.apply p) := by
  unfold Affine.compose Affine.apply
  congr 1 <;> ring

/-- Between georeferences of one reference system pixels are moved by one affine map. -/
theorem exists_forward_eq_apply (hproject : project t.source.crs t.destination.crs = some id)
    (hinvertible : t.destination.transform.determinant ≠ 0) :
    ∃ m : Affine Rat, t.forward project = .ok m.apply := by
  obtain ⟨back, hback, -⟩ := Affine.exists_inverse hinvertible
  refine ⟨back.compose t.source.transform, ?_⟩
  unfold forward Projector.between Georeference.pointToPixel
  rw [hproject, hback]
  exact congrArg Except.ok (funext fun p ↦ (Affine.apply_compose back t.source.transform p).symm)

/-- The bounds that are rounded are those of the image of the whole box. -/
theorem exists_forwardExtremes {m : Affine Rat} (hforward : t.forward project = .ok m.apply)
    (hb : b.isEmpty = false) (hsamples : 2 ≤ samples) :
    ∃ e, t.forwardExtremes project b samples = .ok (some e) ∧
      e.Bounds (m.apply '' b.region) := by
  obtain ⟨hcorners, hregion⟩ := gridOf_between hb hsamples
  have hcorner : (⟨b.minX, b.minY⟩ : Point Rat) ∈ gridOf b samples :=
    hcorners ⟨.inl rfl, .inl rfl⟩
  have hsome : (gridOf b samples).map m.apply ≠ [] :=
    List.ne_nil_of_mem (List.mem_map_of_mem hcorner)
  obtain ⟨e, he, hbounds⟩ := Extremes.exists_bounds hsome
  refine ⟨e, ?_, ?_⟩
  · have hfinite : ((gridOf b samples).map m.apply).filter isFinitePoint =
        (gridOf b samples).map m.apply := List.filter_eq_self.2 fun _ _ ↦ rfl
    unfold forwardExtremes
    rw [hforward]
    change Except.ok (extremes? (((gridOf b samples).map m.apply).filter isFinitePoint)) = _
    rw [hfinite, he]
  · have himage : {p | p ∈ (gridOf b samples).map m.apply} =
        m.apply '' {p | p ∈ gridOf b samples} := by
      ext p
      simp
    rw [himage] at hbounds
    exact hbounds.of_corners hcorners hregion

end

/-- Between two georeferences of one reference system, whose affine maps may turn, shear and flip
pixels as long as the destination's can be undone, the box of the image of a source box is exact.

The bounds that are rounded are those of the image of the whole box.  The integer box holds the
rectangle between them up to a millionth on every side, and so the image of every point of the source
box up to a millionth; there is no smaller one unless the rectangle is narrower than two
millionths; and it is the rectangle itself when its corners are integers. -/
theorem forwardBox_of_affine (project : Projector Rat) (t : Transfer Rat) (b : PixelBox)
    (samples : Int) (hproject : project t.source.crs t.destination.crs = some id)
    (hinvertible : t.destination.transform.determinant ≠ 0) (hb : b.isEmpty = false)
    (hsamples : 2 ≤ samples) :
    ∃ (m : Affine Rat) (e : Extremes Rat) (box : PixelBox),
      t.forward project = .ok m.apply ∧
      t.forwardExtremes project b samples.toNat = .ok (some e) ∧
      e.Bounds (m.apply '' b.region) ∧
      t.forwardBox project b samples = .ok box ∧
      e.inner (1 / 1000000) ⊆ box.region ∧
      (∀ p ∈ b.region,
        (box.minX - 1 / 1000000 ≤ (m.apply p).x ∧ (m.apply p).x ≤ box.maxX + 1 / 1000000) ∧
        box.minY - 1 / 1000000 ≤ (m.apply p).y ∧ (m.apply p).y ≤ box.maxY + 1 / 1000000) ∧
      (e.minX + 2 / 1000000 ≤ e.maxX → e.minY + 2 / 1000000 ≤ e.maxY → ∀ other : PixelBox,
        e.inner (1 / 1000000) ⊆ other.region → box.region ⊆ other.region) ∧
      ∀ left top right bottom : Int, e = ⟨left, top, right, bottom⟩ →
        box = ⟨left, top, right, bottom⟩ := by
  obtain ⟨m, hforward⟩ := exists_forward_eq_apply hproject hinvertible
  obtain ⟨e, he, hbounds⟩ := exists_forwardExtremes hforward hb (by omega : 2 ≤ samples.toNat)
  have hbox : t.forwardBox project b samples = .ok (e.outline (1 / 1000000)) := by
    unfold forwardBox
    rw [hb, if_neg (by decide), if_neg (by omega), bind_of_eq_ok he]
    exact e.around_eq _
  refine ⟨m, e, _, hforward, he, hbounds, hbox, e.inner_subset_outline _, ?near, ?least,
    ?exact⟩
  case near =>
    intro p hp
    obtain ⟨⟨hminX, hmaxX⟩, hminY, hmaxY⟩ := e.outline_near (1 / 1000000)
    have hpoint : m.apply p ∈ m.apply '' b.region := ⟨p, hp, rfl⟩
    have hleft := hbounds.left.2 ⟨_, hpoint, rfl⟩
    have htop := hbounds.top.2 ⟨_, hpoint, rfl⟩
    have hright := hbounds.right.2 ⟨_, hpoint, rfl⟩
    have hbottom := hbounds.bottom.2 ⟨_, hpoint, rfl⟩
    exact ⟨⟨by linarith, by linarith⟩, by linarith, by linarith⟩
  case least =>
    intro hx hy other hother
    exact Extremes.outline_subset_of_inner_subset (by linarith) (by linarith) hother
  case exact =>
    rintro left top right bottom rfl
    exact Extremes.outline_of_integers (by norm_num) (by norm_num) left top right bottom

/-- A quarter turn of pixels into a sheared and flipped grid. -/
def quarterTurn : Transfer Rat where
  source := ⟨⟨"", [], Datum.wgs84, true⟩, ⟨0, -1, 0, 1, 0, 0⟩⟩
  destination := ⟨⟨"", [], Datum.wgs84, true⟩, ⟨1, 1, 0, 0, -1, 0⟩⟩

/-- The box of two columns and three rows. -/
def twoByThree : PixelBox := ⟨0, 0, 2, 3⟩

/-- Two columns and three rows turned and sheared. -/
theorem forwardBox_of_affine_quarter_turn :
    quarterTurn.destination.transform.determinant ≠ 0 ∧
    quarterTurn.forwardBox (fun _ _ ↦ some id) twoByThree 2 = .ok ⟨-3, -2, 2, 0⟩ := by
  have hinvertible : quarterTurn.destination.transform.determinant ≠ 0 := by decide +kernel
  obtain ⟨m, e, box, -, he, -, hbox, -, -, -, hexact⟩ :=
    forwardBox_of_affine (fun _ _ ↦ some id) quarterTurn twoByThree 2 rfl hinvertible
      (by decide) (by decide)
  have hextremes : (quarterTurn.forwardExtremes (fun _ _ ↦ some id) twoByThree 2).toOption.map
      (Option.map fun e ↦ (e.minX, e.minY, e.maxX, e.maxY)) = some (some (-3, -2, 2, 0)) := by
    decide +kernel
  refine ⟨hinvertible, ?_⟩
  rw [show Int.toNat 2 = 2 from rfl] at he
  rw [he] at hextremes
  obtain ⟨minX, minY, maxX, maxY⟩ := e
  cases hextremes
  rw [hbox, hexact (-3) (-2) 2 0 rfl]

end Transfer

end QuadMosaic
