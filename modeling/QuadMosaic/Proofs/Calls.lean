import Mathlib
import QuadMosaic.Proofs.BoxLattice
import QuadMosaic.Proofs.Reading

/-!
# Runs of a canvas

A canvas is used by calls: an array is inserted, the canvas is prepared, a window is read.  A call
that fails leaves the canvas as it was, and so does every reading; the calls after it go on.

What a canvas holds is told from the calls alone.  Its views are those of the insertions that went
through, in their order.  Its extent and its mode are those of the first preparation, which always
goes through.  Its box is grown by one union for each view; a union with a box without pixels may
move a box that is itself without pixels, so the box of the canvas is not told by its corners but as
the hull of the boxes of its views (`PixelBox.IsHull`), the least box that contains them.
-/

namespace QuadMosaic

/-! ## The least box around boxes -/

namespace PixelBox

/-- The least box that contains some boxes.  A box without pixels is contained in every box. -/
structure IsHull (b : PixelBox) (boxes : List PixelBox) : Prop where
  contains : ∀ box ∈ boxes, b.contains box = true
  least : ∀ other : PixelBox, (∀ box ∈ boxes, other.contains box = true) → other.contains b = true

theorem isHull_nil : (empty : PixelBox).IsHull [] :=
  ⟨fun _ hbox ↦ absurd hbox List.not_mem_nil, fun _ _ ↦ contains_of_isEmpty (by decide)⟩

namespace IsHull

variable {b other : PixelBox} {boxes boxes' : List PixelBox}

/-- The hull grows by a union with each box. -/
theorem union (h : b.IsHull boxes) (box : PixelBox) : (b.union box).IsHull (boxes ++ [box]) := by
  constructor
  · intro u hu
    rw [contains_iff]
    intro x y hxy
    rcases List.mem_append.1 hu with hu | hu
    · exact mem_union_left (contains_iff.1 (h.contains u hu) x y hxy)
    · obtain rfl := List.mem_singleton.1 hu
      exact mem_union_right hxy
  · intro outer houter
    obtain ⟨hboxes, hbox⟩ := List.forall_mem_append.1 houter
    exact contains_union (h.least outer hboxes) (hbox box (List.mem_singleton_self box))

/-- A hull has no pixels exactly when none of the boxes has. -/
theorem isEmpty_iff (h : b.IsHull boxes) :
    b.isEmpty = true ↔ ∀ box ∈ boxes, box.isEmpty = true := by
  constructor
  · intro hb box hbox
    exact isEmpty_of_contains (h.contains box hbox) hb
  · intro hboxes
    have hleast := h.least PixelBox.empty fun box hbox ↦ contains_of_isEmpty (hboxes box hbox)
    exact isEmpty_of_contains hleast (by decide)

/-- The order of the boxes does not matter. -/
theorem perm (h : b.IsHull boxes) (hperm : boxes'.Perm boxes) : b.IsHull boxes' :=
  ⟨fun box hbox ↦ h.contains box (hperm.mem_iff.1 hbox),
    fun outer houter ↦ h.least outer fun box hbox ↦ houter box (hperm.mem_iff.2 hbox)⟩

/-- Boxes have one hull with pixels. -/
theorem unique (h : b.IsHull boxes) (h' : other.IsHull boxes) (hb : b.isEmpty = false) :
    b = other :=
  eq_of_contains hb (h'.least b h.contains) (h.least other h'.contains)

end IsHull

end PixelBox

/-! ## Arrays that can be -/

namespace Raster

/-- There can be an array exactly when no length is negative and its bytes can be addressed, where a
length of zero counts as one. -/
theorem sizeFault?_eq_none_iff {bytes : Nat} {lengths : List Int} (hbytes : bytes < addressLimit) :
    sizeFault? bytes lengths = none ↔
      (∀ n ∈ lengths, 0 ≤ n) ∧ bytes * (lengths.map (max 1 ·)).prod < (addressLimit : Int) := by
  induction lengths generalizing bytes with
  | nil =>
    simp only [sizeFault?, List.map_nil, List.prod_nil, mul_one, Nat.cast_lt, hbytes, true_iff]
    exact ⟨fun n hn ↦ absurd hn List.not_mem_nil, trivial⟩
  | cons n lengths ih =>
    rw [List.forall_mem_cons, List.map_cons, List.prod_cons, ← mul_assoc]
    have hprod : 0 < (lengths.map (max 1 ·)).prod := by
      refine List.prod_pos fun m hm ↦ ?_
      obtain ⟨n, -, rfl⟩ := List.mem_map.1 hm
      exact lt_max_of_lt_left one_pos
    unfold sizeFault?
    split
    case isTrue hzero =>
      rw [ih hbytes, hzero, max_eq_left (by decide), mul_one, and_iff_right le_rfl]
    case isFalse hzero =>
      split
      case isTrue hneg =>
        refine ⟨fun h ↦ (by cases h), ?_⟩
        rintro ⟨⟨hn, -⟩, -⟩
        omega
      case isFalse hneg =>
        rw [show max 1 n = (n.toNat : Int) by omega, ← Nat.cast_mul,
          and_iff_right (Int.not_lt.1 hneg)]
        split
        case isTrue hlarge =>
          refine ⟨fun h ↦ (by cases h), ?_⟩
          rintro ⟨-, hbelow⟩
          have := le_mul_of_one_le_right (Int.natCast_nonneg (bytes * n.toNat)) hprod
          omega
        case isFalse hsmall => exact ih (Nat.lt_of_not_le hsmall)

end Raster

/-! ## Calls -/

namespace Canvas

/-- A call of a canvas. -/
inductive Call (α : Type)
  | insert (block : Block α) (x y : Int) (label : String)
  | prepare (extent : PixelBox) (draft : Bool)
  | read (window : PixelBox)

namespace Call

variable {α : Type}

/-- The view that an insertion makes, for an array of three dimensions. -/
def view? : Call α → Option (View α)
  | insert block x y label =>
    block.toRaster?.map fun pixels ↦ ⟨pixels, PixelBox.ofSize x y pixels.cols pixels.rows, label⟩
  | _ => none

/-- What a preparation asks for: the extent, and whether later views hide earlier ones. -/
def preparation? : Call α → Option (PixelBox × Bool)
  | prepare extent draft => some (extent, draft)
  | _ => none

end Call

section

variable {α : Type} [Scalar α]

/-- The canvas after a call that goes through. -/
def perform (c : Canvas α) : Call α → Except Fault (Canvas α)
  | .insert block x y label => do
    let (next, _) ← c.insert block x y label
    pure next
  | .prepare extent draft => c.prepare extent draft
  | .read window => do
    let _ ← c.readAny window
    pure c

/-- A call fails. -/
def Fails (c : Canvas α) (call : Call α) : Prop := ∃ fault, c.perform call = .error fault

/-- The canvas after a call, be it that it fails. -/
def next (c : Canvas α) (call : Call α) : Canvas α :=
  match c.perform call with
  | .ok next => next
  | .error _ => c

/-- The canvas after some calls. -/
def run (c : Canvas α) (calls : List (Call α)) : Canvas α := calls.foldl next c

/-- The calls that go through, in their order. -/
def succeeded (c : Canvas α) : List (Call α) → List (Call α)
  | [] => []
  | call :: calls =>
    match c.perform call with
    | .ok next => call :: next.succeeded calls
    | .error _ => c.succeeded calls

variable {c c' : Canvas α} {call : Call α}

theorem next_of_fails (h : c.Fails call) : c.next call = c := by
  obtain ⟨fault, h⟩ := h
  rw [next, h]

theorem next_of_perform (h : c.perform call = .ok c') : c.next call = c' := by
  rw [next, h]

theorem run_concat (c : Canvas α) (calls : List (Call α)) (call : Call α) :
    c.run (calls ++ [call]) = (c.run calls).next call :=
  List.foldl_concat ..

theorem run_append (c : Canvas α) (calls more : List (Call α)) :
    c.run (calls ++ more) = (c.run calls).run more :=
  List.foldl_append ..

theorem succeeded_concat (c : Canvas α) (calls : List (Call α)) (call : Call α) :
    c.succeeded (calls ++ [call]) =
      c.succeeded calls ++ match (c.run calls).perform call with
        | .ok _ => [call]
        | .error _ => [] := by
  induction calls generalizing c with
  | nil => rfl
  | cons first calls ih =>
    simp only [List.cons_append, succeeded, run, List.foldl_cons, next]
    split
    · exact congrArg (first :: ·) (ih _)
    · exact ih c

/-! ## What a call does -/

/-- All that a call that goes through does. -/
theorem perform_cases (h : c.perform call = .ok c') :
    (∃ v, call.view? = some v ∧ call.preparation? = none ∧ v.Fits c.bands ∧
      c' = { c with views := c.views ++ [v], box := c.box.union v.box }) ∨
    (∃ extent draft, call.view? = none ∧ call.preparation? = some (extent, draft) ∧
      c.extent = none ∧ c' = { c with extent := some extent, draft }) ∨
    (call.view? = none ∧ call.preparation? = none ∧ c' = c) := by
  cases call with
  | insert block x y label =>
    obtain ⟨⟨next, v⟩, hinsert, h⟩ := exists_of_bind_eq_ok h
    cases h
    obtain ⟨hfits, hnext⟩ := eq_of_insert hinsert
    obtain ⟨pixels, haccept, hinsert⟩ := exists_of_bind_eq_ok hinsert
    cases hinsert
    refine .inl ⟨_, ?_, rfl, hfits, rfl⟩
    rw [Call.view?, (accept_eq_ok_iff.1 haccept).2.1]
    rfl
  | prepare extent draft =>
    have hnone : c.extent = none := by
      refine Option.not_isSome_iff_eq_none.1 fun hprepared ↦ ?_
      rw [perform, prepare, if_pos hprepared] at h
      cases h
    exact .inr (.inl ⟨extent, draft, rfl, rfl, hnone, eq_of_prepare h⟩)
  | read window =>
    obtain ⟨r, -, h⟩ := exists_of_bind_eq_ok h
    cases h
    exact .inr (.inr ⟨rfl, rfl, rfl⟩)

/-- An insertion goes through exactly when its array is accepted. -/
theorem perform_insert_eq_ok_iff {block : Block α} {x y : Int} {label : String} :
    (∃ c', c.perform (.insert block x y label) = .ok c') ↔
      ∃ pixels, c.accept block = .ok pixels := by
  constructor
  · rintro ⟨c', h⟩
    obtain ⟨_, hinsert, -⟩ := exists_of_bind_eq_ok h
    obtain ⟨pixels, haccept, -⟩ := exists_of_bind_eq_ok hinsert
    exact ⟨pixels, haccept⟩
  · rintro ⟨pixels, haccept⟩
    cases h : c.perform (.insert block x y label) with
    | ok c' => exact ⟨c', rfl⟩
    | error fault =>
      -- the two steps after the acceptance cannot fail
      rcases cases_of_bind_eq_error h with hinsert | ⟨_, -, h⟩
      · rcases cases_of_bind_eq_error hinsert with h | ⟨_, -, h⟩
        · rw [haccept] at h
          cases h
        · cases h
      · cases h

/-- An insertion fails exactly when the canvas is prepared, or the array has not three dimensions or
not as many bands as the canvas. -/
theorem fails_insert_iff {block : Block α} {x y : Int} {label : String} :
    c.Fails (.insert block x y label) ↔ c.extent.isSome = true ∨
      ¬ ∃ bands rows cols : Nat, block.shape = [bands, rows, cols] ∧ (bands : Int) = c.bands := by
  have hshape : (∃ pixels, block.toRaster? = some pixels ∧ (pixels.bands : Int) = c.bands) ↔
      ∃ bands rows cols : Nat, block.shape = [bands, rows, cols] ∧ (bands : Int) = c.bands := by
    unfold Block.toRaster?
    constructor
    · rintro ⟨pixels, hpixels, hbands⟩
      split at hpixels
      case h_1 bands rows cols hshape =>
        cases hpixels
        exact ⟨bands, rows, cols, hshape, hbands⟩
      case h_2 => cases hpixels
    · rintro ⟨bands, rows, cols, hshape, hbands⟩
      rw [hshape]
      exact ⟨_, rfl, hbands⟩
  rw [Fails, exists_eq_error_iff, perform_insert_eq_ok_iff, ← hshape,
    ← not_not (a := c.extent.isSome = true), Option.not_isSome_iff_eq_none, ← not_and_or]
  simp only [accept_eq_ok_iff, exists_and_left]

/-- A preparation fails exactly when the canvas is prepared. -/
theorem fails_prepare_iff {extent : PixelBox} {draft : Bool} :
    c.Fails (.prepare extent draft) ↔ c.extent.isSome = true := by
  unfold Fails
  change (∃ fault, c.prepare extent draft = .error fault) ↔ _
  unfold prepare
  split
  case isTrue h => exact ⟨fun _ ↦ h, fun _ ↦ ⟨_, rfl⟩⟩
  case isFalse h => exact ⟨fun ⟨_, h'⟩ ↦ (by cases h'), fun h' ↦ absurd h' h⟩

/-- There can be an array of the samples of a window: its bytes can be addressed, eight for each
sample, where a length of zero counts as one. -/
def HasRoom (c : Canvas α) (window : PixelBox) : Prop :=
  0 ≤ c.bands ∧ 8 * (max 1 c.bands * max 1 window.height * max 1 window.width) < 2 ^ 63

theorem lengthOf_eq_ok_iff {n m : Int} :
    lengthOf n = .ok m ↔ m = n ∧ -Raster.addressLimit ≤ n ∧ n < Raster.addressLimit := by
  change (if n < -(Raster.addressLimit : Int) ∨ Raster.addressLimit ≤ n then
    .error (.canvas (.shape .lengthOutOfRange)) else .ok n : Except Fault Int) = .ok m ↔ _
  split
  case isTrue h =>
    refine ⟨fun h' ↦ (by cases h'), fun ⟨_, h₁, h₂⟩ ↦ ?_⟩
    omega
  case isFalse h =>
    rw [Except.ok.injEq]
    omega

theorem checkShape_eq_ok_iff {lengths : List Int} : checkShape lengths = .ok () ↔
    (∀ n ∈ lengths, 0 ≤ n) ∧ 8 * (lengths.map (max 1 ·)).prod < 2 ^ 63 := by
  have hsize : Raster.sizeFault? 8 lengths = none ↔
      (∀ n ∈ lengths, 0 ≤ n) ∧ 8 * (lengths.map (max 1 ·)).prod < 2 ^ 63 :=
    Raster.sizeFault?_eq_none_iff (by decide)
  rw [← hsize]
  unfold checkShape
  split
  case h_1 cause h => simp [h]
  case h_2 h => simp [h]

omit [Scalar α] in
theorem hasRoom_iff {window : PixelBox} : c.HasRoom window ↔
    checkShape [c.bands, window.height, window.width] = .ok () := by
  have hheight : 0 ≤ window.height := le_max_left _ _
  have hwidth : 0 ≤ window.width := le_max_left _ _
  rw [checkShape_eq_ok_iff, HasRoom]
  simp [hheight, hwidth, mul_assoc]

omit [Scalar α] in
/-- Where there is room for the samples, no length is beyond those that can be asked for, and there
is room for the weights. -/
theorem HasRoom.parts {window : PixelBox} (h : c.HasRoom window) :
    lengthOf c.bands = .ok c.bands ∧ lengthOf window.height = .ok window.height ∧
      lengthOf window.width = .ok window.width ∧
      checkShape [window.height, window.width] = .ok () := by
  obtain ⟨hbands, hbytes⟩ := h
  have hheight : 0 ≤ window.height := le_max_left _ _
  have hwidth : 0 ≤ window.width := le_max_left _ _
  have h₁ : 1 ≤ max 1 c.bands := le_max_left _ _
  have h₂ : 1 ≤ max 1 window.height := le_max_left _ _
  have h₃ : 1 ≤ max 1 window.width := le_max_left _ _
  have hweights : max 1 window.height * max 1 window.width ≤
      max 1 c.bands * max 1 window.height * max 1 window.width := by
    rw [mul_assoc]
    exact le_mul_of_one_le_left (by positivity) h₁
  have hrows : max 1 window.height ≤ max 1 window.height * max 1 window.width :=
    le_mul_of_one_le_right (by omega) h₃
  have hcols : max 1 window.width ≤ max 1 window.height * max 1 window.width :=
    le_mul_of_one_le_left (by omega) h₂
  have hfirst : max 1 c.bands ≤ max 1 c.bands * max 1 window.height * max 1 window.width := by
    rw [mul_assoc]
    exact le_mul_of_one_le_right (by omega) (one_le_mul_of_one_le_of_one_le h₂ h₃)
  have hlimit : (Raster.addressLimit : Int) = 2 ^ 63 := rfl
  refine ⟨lengthOf_eq_ok_iff.2 ⟨rfl, by omega⟩, lengthOf_eq_ok_iff.2 ⟨rfl, by omega⟩,
    lengthOf_eq_ok_iff.2 ⟨rfl, by omega⟩, checkShape_eq_ok_iff.2 ⟨?_, ?_⟩⟩
  · simp [hheight, hwidth]
  · simpa using by omega

/-- Where a window is without pixels, the place at which it lies does not matter. -/
theorem gather_of_isEmpty {window : PixelBox} (h : window.isEmpty = true) (c : Canvas α) :
    c.gather window (PixelBox.ofSize 0 0 window.width window.height) =
      c.gather window window := by
  have hskips (place : PixelBox) : c.layInto window place = fun sheet _ ↦ .ok sheet := by
    funext sheet v
    rw [layInto, if_pos (PixelBox.isEmpty_crop_iff.2 fun x y ⟨_, hxy⟩ ↦
      PixelBox.isEmpty_iff_forall.1 h x y hxy)]
  have hheight : (PixelBox.ofSize 0 0 window.width window.height).height = window.height := by
    rw [PixelBox.height_eq, PixelBox.height_eq]
    simp only [PixelBox.ofSize]
    omega
  have hwidth : (PixelBox.ofSize 0 0 window.width window.height).width = window.width := by
    rw [PixelBox.width_eq, PixelBox.width_eq]
    simp only [PixelBox.ofSize]
    omega
  unfold gather
  rw [hskips, hskips, hheight, hwidth]

/-- Where there is room, a prepared canvas is read by gathering the pixels of its views. -/
theorem readAny_eq_gather {window : PixelBox} (hextent : c.extent.isSome = true)
    (hroom : c.HasRoom window) : c.readAny window = c.gather window window := by
  obtain ⟨hbands, hrows, hcols, hweights⟩ := hroom.parts
  unfold readAny
  simp only [Option.isNone_eq_false_iff.2 hextent, Bool.false_eq_true, if_false,
    bind_of_eq_ok hbands, bind_of_eq_ok hrows, bind_of_eq_ok hcols,
    bind_of_eq_ok (hasRoom_iff.1 hroom), bind_of_eq_ok hweights]
  split
  case isTrue hempty => exact gather_of_isEmpty hempty c
  case isFalse => rfl

/-- A canvas that could be read is prepared, and there is room for the window. -/
theorem hasRoom_of_readAny {window : PixelBox} {r : Raster α} (h : c.readAny window = .ok r) :
    c.extent.isSome = true ∧ c.HasRoom window := by
  have hextent : c.extent.isSome = true := by
    refine Decidable.by_contra fun hnone ↦ ?_
    unfold readAny at h
    rw [Option.not_isSome_iff_eq_none.1 hnone] at h
    cases h
  unfold readAny at h
  rw [Option.isNone_eq_false_iff.2 hextent] at h
  obtain ⟨bands, hbands, h⟩ := exists_of_bind_eq_ok h
  obtain ⟨rows, hrows, h⟩ := exists_of_bind_eq_ok h
  obtain ⟨cols, hcols, h⟩ := exists_of_bind_eq_ok h
  obtain ⟨⟨⟩, hsamples, -⟩ := exists_of_bind_eq_ok h
  obtain ⟨rfl, -⟩ := lengthOf_eq_ok_iff.1 hbands
  obtain ⟨rfl, -⟩ := lengthOf_eq_ok_iff.1 hrows
  obtain ⟨rfl, -⟩ := lengthOf_eq_ok_iff.1 hcols
  exact ⟨hextent, hasRoom_iff.2 hsamples⟩

/-- A reading goes through exactly when the canvas is prepared, there is room for the window, and no
view in the window is without bands. -/
theorem readAny_eq_ok_iff (hc : c.Sound) {window : PixelBox} :
    (∃ r, c.readAny window = .ok r) ↔ c.extent.isSome = true ∧ c.HasRoom window ∧
      (c.bands = 0 → ∀ v ∈ c.views, (v.box.crop window).isEmpty = true) := by
  constructor
  · rintro ⟨r, h⟩
    obtain ⟨hextent, hroom⟩ := hasRoom_of_readAny h
    rw [readAny_eq_gather hextent hroom, ← read_eq_gather hextent hroom.1] at h
    exact ⟨hextent, hroom, (clear_of_read hc h).2.2⟩
  · rintro ⟨hextent, hroom, hclear⟩
    obtain ⟨r, hread, -⟩ := read_eq_ok hc hextent hroom.1 hclear
    exact ⟨r, by rw [readAny_eq_gather hextent hroom, ← read_eq_gather hextent hroom.1, hread]⟩

/-- A reading fails exactly when the canvas is not prepared, there is no room for the window, or the
canvas has no band that could be transparency and some view is in the window. -/
theorem fails_read_iff (hc : c.Sound) {window : PixelBox} :
    c.Fails (.read window) ↔ c.extent = none ∨ ¬ c.HasRoom window ∨
      (c.bands = 0 ∧ ∃ v ∈ c.views, (v.box.crop window).isEmpty = false) := by
  have hperform : (∃ c', c.perform (.read window) = .ok c') ↔ ∃ r, c.readAny window = .ok r := by
    constructor
    · rintro ⟨c', h⟩
      obtain ⟨r, hread, -⟩ := exists_of_bind_eq_ok h
      exact ⟨r, hread⟩
    · rintro ⟨r, hread⟩
      exact ⟨c, bind_of_eq_ok hread⟩
  rw [Fails, exists_eq_error_iff, hperform, readAny_eq_ok_iff hc, not_and_or, not_and_or,
    Option.not_isSome_iff_eq_none]
  simp

/-- A reading, like a call that fails, leaves the canvas as it was. -/
theorem next_read (c : Canvas α) (window : PixelBox) : c.next (.read window) = c := by
  cases h : c.perform (.read window) with
  | ok c' =>
    rw [next_of_perform h]
    obtain ⟨r, -, h⟩ := exists_of_bind_eq_ok h
    exact (Except.ok.inj h).symm
  | error fault => exact next_of_fails ⟨fault, h⟩

/-! ## Runs -/

/-- What a canvas holds after some calls of the one that a run starts from. -/
structure Records (start : Canvas α) (calls : List (Call α)) (c : Canvas α) : Prop where
  bands : c.bands = start.bands
  channel : c.channel = start.channel
  /-- The views are those of the insertions that went through. -/
  views : c.views = (start.succeeded calls).filterMap Call.view?
  /-- The extent is that of the first preparation, and so is the mode. -/
  extent : c.extent = (calls.findSome? Call.preparation?).map (·.1)
  draft : c.draft = ((calls.findSome? Call.preparation?).map (·.2)).getD true
  fits : ∀ v ∈ c.views, v.Fits c.bands
  /-- The box is the least one around the boxes of the views. -/
  hull : c.box.IsHull (c.views.map (·.box))

namespace Records

variable {start : Canvas α} {calls : List (Call α)}

theorem sound (h : Records start calls c) : c.Sound :=
  ⟨h.fits, fun v hv x y hxy ↦
    PixelBox.contains_iff.1 (h.hull.contains v.box (List.mem_map_of_mem hv)) x y hxy⟩

theorem nil (bands : Int) (channel : ChannelType) :
    Records (new bands channel : Canvas α) [] (new bands channel) :=
  ⟨rfl, rfl, rfl, rfl, rfl, fun _ hv ↦ absurd hv List.not_mem_nil, PixelBox.isHull_nil⟩

/-- A call that fails is no first preparation. -/
theorem findSome?_of_fails (h : Records start calls c) (hfails : c.Fails call) :
    (calls ++ [call]).findSome? Call.preparation? = calls.findSome? Call.preparation? := by
  rw [List.findSome?_append, List.findSome?_singleton]
  cases hp : call.preparation? with
  | none => exact Option.or_none
  | some p =>
    obtain ⟨extent, draft, rfl⟩ : ∃ extent draft, call = .prepare extent draft := by
      cases call <;> first | exact ⟨_, _, rfl⟩ | cases hp
    have hprepared := fails_prepare_iff.1 hfails
    rw [h.extent, Option.isSome_map] at hprepared
    exact Option.or_of_isSome hprepared

/-- What a canvas holds after one more call. -/
theorem next (h : Records start calls (start.run calls)) (call : Call α) :
    Records start (calls ++ [call]) ((start.run calls).next call) := by
  have hsucceeded := succeeded_concat start calls call
  generalize start.run calls = c at *
  cases hperform : c.perform call with
  | error fault =>
    rw [hperform, List.append_nil] at hsucceeded
    rw [next_of_fails ⟨fault, hperform⟩]
    have hfirst := h.findSome?_of_fails ⟨fault, hperform⟩
    exact { h with
      views := by rw [hsucceeded, h.views]
      extent := by rw [hfirst, h.extent]
      draft := by rw [hfirst, h.draft] }
  | ok c' =>
    rw [hperform] at hsucceeded
    have hviews : (start.succeeded (calls ++ [call])).filterMap Call.view? =
        c.views ++ call.view?.toList := by
      rw [hsucceeded, List.filterMap_append, h.views]
      rfl
    have hfirst : (calls ++ [call]).findSome? Call.preparation? =
        (calls.findSome? Call.preparation?).or call.preparation? := by
      rw [List.findSome?_append, List.findSome?_singleton]
    rw [next_of_perform hperform]
    rcases perform_cases hperform with
      ⟨v, hv, hp, hfits, rfl⟩ | ⟨extent, draft, hv, hp, hnone, rfl⟩ | ⟨hv, hp, rfl⟩
    · rw [hp, Option.or_none] at hfirst
      exact {
        bands := h.bands
        channel := h.channel
        views := by rw [hviews, hv]; rfl
        extent := by rw [hfirst, h.extent]
        draft := by rw [hfirst, h.draft]
        fits := List.forall_mem_append.2 ⟨h.fits, List.forall_mem_singleton.2 hfits⟩
        hull := by
          rw [List.map_append]
          exact h.hull.union v.box }
    · -- the canvas was not prepared, so that no call before was a preparation
      have hbefore := h.extent.symm.trans hnone
      rw [Option.map_eq_none_iff.1 hbefore, hp, Option.none_or] at hfirst
      exact { h with
        views := by rw [hviews, hv]; exact (List.append_nil _).symm
        extent := by rw [hfirst]; rfl
        draft := by rw [hfirst]; rfl }
    · rw [hp, Option.or_none] at hfirst
      exact { h with
        views := by rw [hviews, hv]; exact (List.append_nil _).symm
        extent := by rw [hfirst, h.extent]
        draft := by rw [hfirst, h.draft] }

/-- What a canvas holds after any calls. -/
theorem run (bands : Int) (channel : ChannelType) (calls : List (Call α)) :
    Records (new bands channel) calls ((new bands channel : Canvas α).run calls) := by
  induction calls using List.reverseRecOn with
  | nil => exact nil bands channel
  | append_singleton calls call ih =>
    rw [run_concat]
    exact ih.next call

/-- No call changes the extent or the mode of a prepared canvas. -/
theorem prepared_concat (h : Records start calls c) {more : List (Call α)} {c' : Canvas α}
    (h' : Records start (calls ++ more) c') (hprepared : c.extent.isSome = true) :
    c'.extent = c.extent ∧ c'.draft = c.draft := by
  have hfirst : (calls ++ more).findSome? Call.preparation? =
      calls.findSome? Call.preparation? := by
    rw [List.findSome?_append]
    rw [h.extent, Option.isSome_map] at hprepared
    exact Option.or_of_isSome hprepared
  exact ⟨by rw [h'.extent, hfirst, h.extent], by rw [h'.draft, hfirst, h.draft]⟩

/-- The box of a canvas does not depend on the order of its views, unless it is without pixels. -/
theorem box_eq_of_perm (h : Records start calls c) {others : List (Call α)} {c' : Canvas α}
    (h' : Records start others c')
    (hperm : (c'.views.map (·.box)).Perm (c.views.map (·.box))) (hbox : c.box.isEmpty = false) :
    c'.box = c.box :=
  ((h.hull.perm hperm).unique h'.hull hbox).symm

end Records

/-- What a canvas holds after any calls, and which calls fail then: an insertion on a prepared
canvas or of an array of another shape, a preparation of a prepared canvas, and a reading of one
that is not prepared, of a window for which there can be no array, or of one in which a view has no
band for its transparency. -/
theorem run_keeps_records (bands : Int) (channel : ChannelType) (calls : List (Call α)) :
    let start : Canvas α := new bands channel
    let c := start.run calls
    Records start calls c ∧
    (c.box.isEmpty = true ↔ ∀ v ∈ c.views, v.box.isEmpty = true) ∧
    (∀ others : List (Call α),
      ((start.run others).views.map (·.box)).Perm (c.views.map (·.box)) →
        c.box.isEmpty = false → (start.run others).box = c.box) ∧
    (∀ more : List (Call α), c.extent.isSome = true →
      (c.run more).extent = c.extent ∧ (c.run more).draft = c.draft) ∧
    (∀ (block : Block α) (x y : Int) (label : String),
      c.Fails (.insert block x y label) ↔ c.extent.isSome = true ∨
        ¬ ∃ bs rows cols : Nat, block.shape = [bs, rows, cols] ∧ (bs : Int) = bands) ∧
    (∀ (extent : PixelBox) (draft : Bool),
      c.Fails (.prepare extent draft) ↔ c.extent.isSome = true) ∧
    (∀ window : PixelBox,
      c.Fails (.read window) ↔ c.extent = none ∨ bands < 0 ∨
        2 ^ 63 ≤ 8 * (max 1 bands * max 1 window.height * max 1 window.width) ∨
          (bands = 0 ∧ ∃ v ∈ c.views, (v.box.crop window).isEmpty = false)) ∧
    (∀ call : Call α, c.Fails call ∨ (∃ window, call = .read window) → c.next call = c) := by
  intro start c
  have h : Records start calls c := Records.run bands channel calls
  refine ⟨h, ?box, ?order, ?prepared, ?insert, fun _ _ ↦ fails_prepare_iff, ?read, ?keep⟩
  case box =>
    rw [h.hull.isEmpty_iff, List.forall_mem_map]
  case order =>
    intro others hperm hbox
    exact h.box_eq_of_perm (Records.run bands channel others) hperm hbox
  case prepared =>
    intro more hprepared
    have hmore := Records.run bands channel (calls ++ more)
    rw [run_append] at hmore
    exact h.prepared_concat hmore hprepared
  case insert =>
    intro block x y label
    rw [fails_insert_iff, h.bands]
    rfl
  case read =>
    intro window
    rw [fails_read_iff h.sound, HasRoom, not_and_or, not_le, not_lt, or_assoc, h.bands]
    rfl
  case keep =>
    rintro call (hfails | ⟨window, rfl⟩)
    · exact next_of_fails hfails
    · exact next_read c window

/-- Seven calls on a canvas of one band: an array of two bands is refused, a reading comes too
early, an array with pixels and one without are inserted, the canvas is prepared for mixing, and
neither a further array nor a further preparation goes through. -/
theorem run_keeps_records_of_seven_calls :
    let full : Block Rat := ⟨[1, 2, 2], fun _ ↦ .whole 7⟩
    let flat : Block Rat := ⟨[1, 0, 4], fun _ ↦ .whole 7⟩
    let twofold : Block Rat := ⟨[2, 2, 2], fun _ ↦ .whole 7⟩
    let window : PixelBox := ⟨0, 0, 4, 4⟩
    let calls : List (Call Rat) := [.insert twofold 0 0 "", .read window,
      .insert full (-1) 3 "full", .insert flat 9 9 "flat", .prepare window false,
      .insert full 0 0 "late", .prepare ⟨0, 0, 1, 1⟩ true]
    let c := (new 1 .uint8 : Canvas Rat).run calls
    c.views.map (fun v ↦ (v.label, v.box)) = [("full", ⟨-1, 3, 1, 5⟩), ("flat", ⟨9, 9, 13, 9⟩)] ∧
      c.box.IsHull [⟨-1, 3, 1, 5⟩, ⟨9, 9, 13, 9⟩] ∧ c.box.isEmpty = false ∧
      (∀ more, (c.run more).extent = some window ∧ (c.run more).draft = false) ∧
      c.Fails (.insert full 0 0 "late") ∧ c.Fails (.prepare window true) ∧
      ¬ c.Fails (.read window) ∧ c.next (.read window) = c := by
  intro full flat twofold window calls c
  obtain ⟨hrecords, hempty, -, hkept, hinsert, hprepare, hread, hnext⟩ :=
    run_keeps_records 1 .uint8 calls
  have hextent : c.extent = some window := hrecords.extent
  have hdraft : c.draft = false := hrecords.draft
  have hprepared : c.extent.isSome = true := by
    rw [hextent]
    rfl
  have hviews : c.views.map (fun v ↦ (v.label, v.box)) =
      [("full", ⟨-1, 3, 1, 5⟩), ("flat", ⟨9, 9, 13, 9⟩)] := by
    rw [hrecords.views]
    rfl
  have hboxes : c.views.map (·.box) = [⟨-1, 3, 1, 5⟩, ⟨9, 9, 13, 9⟩] := by
    rw [hrecords.views]
    rfl
  refine ⟨hviews, hboxes ▸ hrecords.hull, ?_, ?_, (hinsert full 0 0 "late").2 (.inl hprepared),
    (hprepare window true).2 hprepared, ?_, hnext _ (.inr ⟨window, rfl⟩)⟩
  · refine Bool.eq_false_iff.2 fun h ↦ ?_
    have hall : ∀ box ∈ c.views.map (·.box), box.isEmpty = true :=
      List.forall_mem_map.2 (hempty.1 h)
    rw [hboxes] at hall
    exact absurd (hall ⟨-1, 3, 1, 5⟩ List.mem_cons_self) (by decide)
  · intro more
    obtain ⟨hextent', hdraft'⟩ := hkept more hprepared
    exact ⟨hextent'.trans hextent, hdraft'.trans hdraft⟩
  · rw [hread window, hextent]
    rintro (hnone | hnegative | hlarge | ⟨hzero, -⟩)
    · cases hnone
    · exact absurd hnegative (by decide)
    · exact absurd hlarge (by decide)
    · exact absurd hzero (by decide)

/-- A prepared canvas cannot always be read: no array has a negative number of bands, none is as
large as a window may be, and a view without bands has no transparency. -/
theorem read_fails_on_prepared :
    let window : PixelBox := ⟨0, 0, 1, 1⟩
    let wide : PixelBox := ⟨0, 0, 2147483648, 2147483648⟩
    let prepare : Call Rat := .prepare window true
    let block : Block Rat := ⟨[0, 1, 1], fun _ ↦ .whole 0⟩
    let negative := (new (-1) .uint8 : Canvas Rat).run [prepare]
    let single := (new 1 .uint8 : Canvas Rat).run [prepare]
    let bare := (new 0 .uint8 : Canvas Rat).run [.insert block 0 0 "", prepare]
    (negative.extent = some window ∧ negative.Fails (.read window)) ∧
    (single.extent = some window ∧ single.Fails (.read wide)) ∧
    (bare.extent = some window ∧ bare.Fails (.read window)) := by
  exact ⟨⟨rfl, .canvas (.shape .negativeLength), rfl⟩, ⟨rfl, .canvas (.shape .tooLarge), rfl⟩,
    ⟨rfl, .value .noSuchIndex, rfl⟩⟩

end

end Canvas

end QuadMosaic
