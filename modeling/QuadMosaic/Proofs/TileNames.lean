import Mathlib
import QuadMosaic.Proofs.QuadTree

/-!
# Tile names are a code

The name of a tile spells its column and its row: each digit holds one bit of both, the bits that
weigh most first.  Main statement: `Tile.name_is_code`.

A name grows by one digit from a tile to the tiles that it holds (`name_child`), and reading goes
down the same way, so that everything here is an induction on the level that takes the last digit
off.
-/

namespace QuadMosaic

namespace Tile

variable {s t : Tile} {name : String} {n digit : Nat}

/-! ## Reading a name -/

/-- One of the four tiles that a tile holds one level down.  The low bit of the digit is the next
bit of the column and the high bit that of the row. -/
def child (t : Tile) (digit : Nat) : Tile :=
  ⟨2 * t.col + (digit % 2 : Nat), 2 * t.row + (digit / 2 : Nat)⟩

/-- The digits of a name, which follow the letter of the root. -/
def digitsOf (name : String) : List Nat := (name.toList.drop 1).map fun c ↦ c.toNat - '0'.toNat

/-- The tile that the digits of a name lead to from the root. -/
def ofName (name : String) : Tile := (digitsOf name).foldl child ⟨0, 0⟩

/-- The form of the names of a level: the letter of the root, and one digit from 0 to 3 for each
level below it. -/
def IsName (name : String) (level : Nat) : Prop :=
  ∃ digits : List Char, name = "r" ++ String.ofList digits ∧ digits.length = level ∧
    ∀ c ∈ digits, c ∈ ['0', '1', '2', '3']

/-! ## Children -/

theorem childDigit_lt (t : Tile) : t.childDigit.toNat < 4 := by
  unfold childDigit
  omega

theorem child_parent (t : Tile) : t.parent.child t.childDigit.toNat = t := by
  obtain ⟨hcol, hrow⟩ := parent_eq_iff.1 (rfl : t.parent = t.parent)
  obtain ⟨col, row⟩ := t
  simp only [child, childDigit, mk.injEq] at hcol hrow ⊢
  omega

theorem parent_child (t : Tile) (h : digit < 4) : (t.child digit).parent = t := by
  refine parent_eq_iff.2 ?_
  simp only [child]
  omega

theorem childDigit_child (t : Tile) (h : digit < 4) : (t.child digit).childDigit = digit := by
  simp only [childDigit, child]
  omega

theorem InLevel.child (ht : t.InLevel n) (h : digit < 4) : (t.child digit).InLevel (n + 1) := by
  obtain ⟨hcol, hcol', hrow, hrow'⟩ := ht
  constructor <;> simp only [Tile.child, Int.pow_succ] <;> omega

/-! ## Digits -/

theorem mem_digits_iff {c : Char} :
    c ∈ ['0', '1', '2', '3'] ↔ ∃ digit, digit < 4 ∧ Nat.digitChar digit = c := by
  constructor
  · simp only [List.mem_cons, List.not_mem_nil, or_false]
    rintro (rfl | rfl | rfl | rfl)
    exacts [⟨0, by decide, rfl⟩, ⟨1, by decide, rfl⟩, ⟨2, by decide, rfl⟩, ⟨3, by decide, rfl⟩]
  · rintro ⟨digit, h, rfl⟩
    interval_cases digit <;> decide

theorem toString_digit (h : digit < 4) : toString digit = String.ofList [Nat.digitChar digit] := by
  interval_cases digit <;> rfl

/-- A name grows by a digit. -/
theorem name_child (t : Tile) (h : digit < 4) (n : Nat) :
    (t.child digit).name (n + 1 : Nat) = t.name n ++ String.ofList [Nat.digitChar digit] := by
  rw [name_succ, parent_child t h, childDigit_child t h, ← toString_digit h]
  rfl

/-- Reading goes one level down for a digit. -/
theorem ofName_append (hname : IsName name n) (h : digit < 4) :
    ofName (name ++ String.ofList [Nat.digitChar digit]) = (ofName name).child digit := by
  obtain ⟨digits, rfl, -, -⟩ := hname
  have hdigit : (Nat.digitChar digit).toNat - 48 = digit := by
    rw [Nat.toNat_digitChar_of_lt_ten (by omega)]
    omega
  simp [ofName, digitsOf, hdigit]

theorem isName_append (hname : IsName name n) (h : digit < 4) :
    IsName (name ++ String.ofList [Nat.digitChar digit]) (n + 1) := by
  obtain ⟨digits, rfl, rfl, hdigits⟩ := hname
  refine ⟨digits ++ [Nat.digitChar digit], ?_, by simp, ?_⟩
  · rw [String.ofList_append, String.append_assoc]
  · refine List.forall_mem_append.2 ⟨hdigits, List.forall_mem_singleton.2 ?_⟩
    exact mem_digits_iff.2 ⟨digit, h, rfl⟩

/-- A name with one digit more is a name and a digit. -/
theorem exists_of_isName_succ (hname : IsName name (n + 1)) :
    ∃ front digit, digit < 4 ∧ IsName front n ∧
      name = front ++ String.ofList [Nat.digitChar digit] := by
  obtain ⟨digits, rfl, hlength, hdigits⟩ := hname
  obtain rfl | ⟨front, c, rfl⟩ := List.eq_nil_or_concat' digits
  · cases hlength
  obtain ⟨hfront, hc⟩ := List.forall_mem_append.1 hdigits
  obtain ⟨digit, h, rfl⟩ := mem_digits_iff.1 (hc c (List.mem_singleton_self c))
  refine ⟨"r" ++ String.ofList front, digit, h, ⟨front, rfl, by simpa using hlength, hfront⟩, ?_⟩
  rw [String.ofList_append, String.append_assoc]

/-! ## The code -/

theorem isName_name (t : Tile) (n : Nat) : IsName (t.name n) n := by
  induction n generalizing t with
  | zero => exact ⟨[], rfl, rfl, nofun⟩
  | succ n ih =>
    rw [← child_parent t, name_child _ (childDigit_lt t)]
    exact isName_append (ih t.parent) (childDigit_lt t)

/-- The last digit of a number in base two, and the others. -/
theorem emod_two_pow_succ (a : Int) (n : Nat) : a % 2 ^ (n + 1) = 2 * (a / 2 % 2 ^ n) + a % 2 := by
  have hpos : (0 : Int) < 2 ^ n := by positivity
  have hlast := Int.emod_add_mul_ediv a 2
  have hfront := Int.emod_add_mul_ediv (a / 2) (2 ^ n)
  have hnonneg := Int.emod_nonneg (a / 2) hpos.ne'
  have hlt := Int.emod_lt_of_pos (a / 2) hpos
  rw [Int.pow_succ]
  refine ((Int.ediv_emod_unique (q := a / 2 / 2 ^ n) (by omega)).2 ⟨?_, by omega, by omega⟩).2
  linear_combination 2 * hfront + hlast

/-- Reading a name gives the bits that it has digits for. -/
theorem ofName_name (t : Tile) (n : Nat) : ofName (t.name n) = ⟨t.col % 2 ^ n, t.row % 2 ^ n⟩ := by
  induction n generalizing t with
  | zero =>
    have hname : t.name (0 : Nat) = "r" := rfl
    rw [hname, Int.pow_zero, Int.emod_one, Int.emod_one]
    decide
  | succ n ih =>
    have hname := name_child t.parent (childDigit_lt t) n
    rw [child_parent] at hname
    rw [hname, ofName_append (isName_name t.parent n) (childDigit_lt t), ih,
      emod_two_pow_succ, emod_two_pow_succ]
    simp only [child, childDigit, parent, Int.fdiv_eq_ediv_of_nonneg _ (by decide : (0 : Int) ≤ 2),
      mk.injEq]
    omega

theorem ofName_of_inLevel (h : t.InLevel n) : ofName (t.name n) = t := by
  rw [ofName_name, Int.emod_eq_of_lt h.col_nonneg h.col_lt, Int.emod_eq_of_lt h.row_nonneg h.row_lt]

/-- Every name of a level is the name of a tile of the level. -/
theorem exists_of_isName (h : IsName name n) : ∃ t : Tile, t.InLevel n ∧ t.name n = name := by
  induction n generalizing name with
  | zero =>
    obtain ⟨digits, rfl, hlength, -⟩ := h
    obtain rfl := List.length_eq_zero_iff.1 hlength
    exact ⟨⟨0, 0⟩, ⟨by decide, by decide, by decide, by decide⟩, rfl⟩
  | succ n ih =>
    obtain ⟨front, digit, hdigit, hfront, rfl⟩ := exists_of_isName_succ h
    obtain ⟨t, ht, rfl⟩ := ih hfront
    exact ⟨t.child digit, ht.child hdigit, name_child t hdigit n⟩

/-- Names leave out the bits that weigh too much for their level, and no others. -/
theorem name_eq_name_iff (s t : Tile) (n : Nat) :
    s.name n = t.name n ↔ s.col % 2 ^ n = t.col % 2 ^ n ∧ s.row % 2 ^ n = t.row % 2 ^ n := by
  rw [← mk.injEq, ← ofName_name, ← ofName_name]
  refine ⟨congrArg ofName, fun h ↦ ?_⟩
  obtain ⟨u, hu, hus⟩ := exists_of_isName (isName_name s n)
  obtain ⟨v, hv, hvt⟩ := exists_of_isName (isName_name t n)
  rw [← hus, ← hvt, ofName_of_inLevel hu, ofName_of_inLevel hv] at h
  rw [← hus, ← hvt, h]

/-- The names of a level are a code for its tiles.

Each tile of the level has a name of the right form, no two have the same, and each name of the form
is that of a tile.  Reading a name digit by digit, the low bit for the column and the high bit for
the row, leads back to the tile.  A tile beyond the level has the name of the tile whose coordinates
are the remainders of its own, and tiles with other remainders have other names. -/
theorem name_is_code (n : Nat) :
    Set.BijOn (fun t : Tile ↦ t.name n) {t | t.InLevel n} {name | IsName name n} ∧
      (∀ t : Tile, t.InLevel n → ofName (t.name n) = t) ∧
      ∀ s t : Tile, s.name n = t.name n ↔
        s.col % 2 ^ n = t.col % 2 ^ n ∧ s.row % 2 ^ n = t.row % 2 ^ n := by
  refine ⟨⟨fun t _ ↦ isName_name t n, ?_, fun name ↦ exists_of_isName⟩,
    fun t ↦ ofName_of_inLevel, fun s t ↦ name_eq_name_iff s t n⟩
  intro s hs t ht heq
  have hread := congrArg ofName heq
  rwa [ofName_of_inLevel hs, ofName_of_inLevel ht] at hread

/-- A tile of level three, and one beyond it that has the same name there. -/
theorem name_is_code_of_level_three :
    (⟨5, 2⟩ : Tile).InLevel 3 ∧ (⟨5, 2⟩ : Tile).name (3 : Nat) = "r121" ∧
      ofName "r121" = ⟨5, 2⟩ ∧
      (⟨5, 2⟩ : Tile).name (3 : Nat) = (⟨13, -6⟩ : Tile).name (3 : Nat) := by
  obtain ⟨-, hread, hsame⟩ := name_is_code 3
  have hin : (⟨5, 2⟩ : Tile).InLevel 3 := ⟨by decide, by decide, by decide, by decide⟩
  have hname : (⟨5, 2⟩ : Tile).name (3 : Nat) = "r121" := by decide
  exact ⟨hin, hname, hname ▸ hread ⟨5, 2⟩ hin, (hsame _ _).2 (by decide)⟩

end Tile

end QuadMosaic
