import Mathlib
import QuadMosaic.Text.Path

/-!
# Paths written and read again

Reading a text drops repeated slashes and single dots, so a text need not come back.  The path does:
what reading makes is a path of clean components, and the text of such a path is split into the same
components again.

A text with an ending is read as the path of a file beside the others of the same text.  Whether the
ending meets the last component of the path of the text alone depends on how the text ends
(`Path.name_append_iff`).
-/

namespace QuadMosaic.Path

/-! ## Slashes -/

theorem splitSlash_ne_nil (s : List Char) : splitSlash s ≠ [] := by
  fun_cases splitSlash s <;> simp_all

theorem not_mem_of_mem_splitSlash {s p : List Char} (h : p ∈ splitSlash s) : '/' ∉ p := by
  fun_induction splitSlash s generalizing p with
  | case1 => simp_all
  | case2 rest ih =>
    rcases List.mem_cons.1 h with rfl | h
    · exact List.not_mem_nil
    · exact ih h
  | case3 c rest hc hnil => exact absurd hnil (splitSlash_ne_nil rest)
  | case4 c rest hc part others heq ih =>
    rcases List.mem_cons.1 h with rfl | h
    · simpa [Ne.symm hc] using ih (heq ▸ List.mem_cons_self)
    · exact ih (heq ▸ List.mem_cons_of_mem part h)

theorem splitSlash_of_not_mem {p : List Char} (h : '/' ∉ p) : splitSlash p = [p] := by
  induction p with
  | nil => rfl
  | cons c p ih =>
    obtain ⟨hc, hp⟩ := List.ne_and_not_mem_of_not_mem_cons h
    simp [splitSlash, Ne.symm hc, ih hp]

theorem splitSlash_append_cons {p : List Char} (h : '/' ∉ p) (s : List Char) :
    splitSlash (p ++ '/' :: s) = p :: splitSlash s := by
  induction p with
  | nil => rfl
  | cons c p ih =>
    obtain ⟨hc, hp⟩ := List.ne_and_not_mem_of_not_mem_cons h
    simp [splitSlash, Ne.symm hc, ih hp]

/-- Components joined with slashes are split into the same components. -/
theorem splitSlash_intercalate {ps : List (List Char)} (hne : ps ≠ []) (h : ∀ p ∈ ps, '/' ∉ p) :
    splitSlash (['/'].intercalate ps) = ps := by
  induction ps with
  | nil => exact absurd rfl hne
  | cons p ps ih =>
    have hp := h p List.mem_cons_self
    cases ps with
    | nil => simpa using splitSlash_of_not_mem hp
    | cons q qs =>
      rw [List.intercalate_cons_cons, List.append_assoc, List.singleton_append,
        splitSlash_append_cons hp, ih (List.cons_ne_nil q qs) fun r hr ↦ h r (.tail p hr)]

/-! ## Clean paths -/

/-- The leading slashes that a path may have. -/
def IsRoot (root : String) : Prop := root = "" ∨ root = "/" ∨ root = "//"

/-- A path as reading makes it. -/
structure IsClean (p : Path) : Prop where
  root : IsRoot p.root
  parts : ∀ part ∈ p.parts, part ≠ "" ∧ part ≠ "." ∧ '/' ∉ part.toList

theorem rootOf_append {root : String} (hroot : IsRoot root) {s : List Char}
    (h : s.takeWhile (· = '/') = []) : rootOf (root.toList ++ s) = root := by
  have hlength : ((root.toList ++ s).takeWhile (· = '/')).length = root.length := by
    rcases hroot with rfl | rfl | rfl <;> simp only [String.reduceToList, List.nil_append,
      List.cons_append, List.takeWhile_cons, decide_true, if_true, h] <;> rfl
  unfold rootOf
  rw [hlength]
  rcases hroot with rfl | rfl | rfl <;> rfl

theorem filter_splitSlash_append {root : String} (hroot : IsRoot root) (s : List Char) :
    (splitSlash (root.toList ++ s)).filter (fun p ↦ p ≠ [] ∧ p ≠ ['.']) =
      (splitSlash s).filter fun p ↦ p ≠ [] ∧ p ≠ ['.'] := by
  rcases hroot with rfl | rfl | rfl <;> simp [splitSlash]

theorem ofString_isClean (s : String) : (ofString s).IsClean where
  root := by
    simp only [ofString, rootOf, IsRoot]
    split <;> simp
  parts part hpart := by
    simp only [ofString, List.mem_map, List.mem_filter, decide_eq_true_eq] at hpart
    obtain ⟨p, ⟨hp, hne, hdot⟩, rfl⟩ := hpart
    rw [String.toList_ofList]
    refine ⟨fun h ↦ hne ?_, fun h ↦ hdot ?_, not_mem_of_mem_splitSlash hp⟩
    · simpa using congrArg String.toList h
    · simpa using congrArg String.toList h

theorem toList_toString {p : Path} (h : ¬ (p.root = "" ∧ p.parts = [])) :
    p.toString.toList = p.root.toList ++ ['/'].intercalate (p.parts.map String.toList) := by
  rw [toString, if_neg h, String.toList_append, String.toList_intercalate]
  rfl

namespace IsClean

variable {p : Path}

theorem takeWhile_intercalate (h : p.IsClean) :
    (['/'].intercalate (p.parts.map String.toList)).takeWhile (· = '/') = [] := by
  have hparts := h.parts
  cases hp : p.parts with
  | nil => rfl
  | cons part rest =>
    obtain ⟨hne, -, hslash⟩ := hparts part (hp ▸ List.mem_cons_self)
    cases hc : part.toList with
    | nil => exact absurd (String.toList_eq_nil_iff.1 hc) hne
    | cons c cs =>
      have hc' : c ≠ '/' := fun heq ↦ hslash (by simp [hc, heq])
      cases rest <;> simp [hc, hc', List.intercalate_cons_cons]

theorem filter_splitSlash_intercalate (h : p.IsClean) :
    (splitSlash (['/'].intercalate (p.parts.map String.toList))).filter
      (fun p ↦ p ≠ [] ∧ p ≠ ['.']) = p.parts.map String.toList := by
  by_cases hnil : p.parts = []
  · rw [hnil]
    rfl
  · rw [splitSlash_intercalate (by simpa using hnil), List.filter_eq_self]
    · simp only [List.forall_mem_map, decide_eq_true_eq]
      intro part hpart
      obtain ⟨hne, hdot, -⟩ := h.parts part hpart
      refine ⟨fun heq ↦ hne (String.toList_eq_nil_iff.1 heq), fun heq ↦ hdot ?_⟩
      rw [← String.ofList_toList (s := part), heq]
    · simp only [List.forall_mem_map]
      exact fun part hpart ↦ (h.parts part hpart).2.2

end IsClean

/-- A path that was read comes back from its text. -/
theorem IsClean.ofString_toString {p : Path} (h : p.IsClean) : ofString p.toString = p := by
  by_cases hempty : p.root = "" ∧ p.parts = []
  · obtain ⟨root, parts⟩ := p
    obtain ⟨rfl, rfl⟩ := hempty
    decide
  · have hlist := toList_toString hempty
    rw [ofString, hlist, rootOf_append h.root h.takeWhile_intercalate,
      filter_splitSlash_append h.root, h.filter_splitSlash_intercalate]
    simp

example : (ofString "//tiles/./a//b.tif/").toString = "//tiles/a/b.tif" := by decide

theorem intercalate_eq_nil {ps : List (List Char)} (h : ['/'].intercalate ps = []) :
    ps = [] ∨ ps = [[]] := by
  rcases ps with - | ⟨p, - | ⟨q, qs⟩⟩ <;> simp_all [List.intercalate_cons_cons]

/-- The text of a path is not empty. -/
theorem toString_ne_empty {p : Path} (h : ∀ part ∈ p.parts, part ≠ "") : p.toString ≠ "" := by
  by_cases hempty : p.root = "" ∧ p.parts = []
  · rw [toString, if_pos hempty]
    decide
  · intro hnil
    have hlist := toList_toString hempty
    rw [hnil] at hlist
    obtain ⟨hroot, hjoined⟩ := List.append_eq_nil_iff.1 hlist.symm
    have hroot : p.root = "" := String.toList_eq_nil_iff.1 hroot
    rcases intercalate_eq_nil hjoined with hparts | hparts
    · exact hempty ⟨hroot, List.map_eq_nil_iff.1 hparts⟩
    · obtain ⟨part, hpart, hpart'⟩ := List.map_eq_singleton_iff.1 hparts
      exact h part (by simp [hpart]) (String.toList_eq_nil_iff.1 hpart')

theorem stemOf_ne_nil {s : List Char} (h : s ≠ []) : stemOf s ≠ [] := by
  unfold stemOf
  simp only
  split
  · exact h
  · simp_all

/-- The path without its suffix has a text as well. -/
theorem IsClean.toString_withoutSuffix_ne_empty {p q : Path} (h : p.IsClean)
    (hq : p.withoutSuffix? = some q) : q.toString ≠ "" := by
  unfold withoutSuffix? at hq
  split at hq
  · cases hq
  · rename_i last hlast
    obtain rfl := Option.some.inj hq
    refine toString_ne_empty fun part hpart ↦ ?_
    rcases List.mem_append.1 hpart with hpart | hpart
    · exact (h.parts part (List.mem_of_mem_dropLast hpart)).1
    · obtain rfl := List.mem_singleton.1 hpart
      have hne := (h.parts last (List.mem_of_getLast? hlast)).1
      intro hstem
      refine stemOf_ne_nil (fun heq ↦ hne (String.toList_eq_nil_iff.1 heq)) ?_
      simpa using congrArg String.toList hstem

/-! ## Endings

A file of a pyramid is named by a text with an ending.  The ending goes to what follows the last
slash of the text, which need not be the last component of its path. -/

/-- What follows the last slash of a text. -/
def lastRun (s : String) : String := String.ofList ((splitSlash s.toList).getLastD [])

/-- The components before the last slash of a text. -/
def leading (s : String) : List String :=
  ((splitSlash s.toList).dropLast.filter fun p ↦ p ≠ [] ∧ p ≠ ['.']).map String.ofList

/-- A text does not end in the last component of its path: a single dot follows its last slash, or
nothing though the path has components. -/
def Trails (s : String) : Prop := lastRun s = "." ∨ lastRun s = "" ∧ (ofString s).parts ≠ []

instance (s : String) : Decidable (Trails s) := inferInstanceAs (Decidable (_ ∨ _ ∧ _))

/-- A text that can end a component, and is too long for a component of dots. -/
structure IsEnding (e : String) : Prop where
  slash : '/' ∉ e.toList
  length : 3 ≤ e.toList.length

variable {s e : String}

/-- An ending goes to the last run of characters. -/
theorem splitSlash_append {e : List Char} (he : '/' ∉ e) (s : List Char) :
    splitSlash (s ++ e) = (splitSlash s).dropLast ++ [(splitSlash s).getLastD [] ++ e] := by
  fun_induction splitSlash s with
  | case1 => exact splitSlash_of_not_mem he
  | case2 rest ih =>
    rw [List.cons_append, splitSlash, if_pos rfl, ih, List.dropLast_cons_of_ne_nil
      (splitSlash_ne_nil rest), List.getLastD_cons, List.cons_append]
  | case3 c rest hc hnil => exact absurd hnil (splitSlash_ne_nil rest)
  | case4 c rest hc part others heq ih =>
    rw [heq] at ih
    rw [List.cons_append, splitSlash, if_neg hc, ih]
    cases others <;> rfl

theorem rootOf_append_of_not_mem {e : List Char} (he : '/' ∉ e) (s : List Char) :
    rootOf (s ++ e) = rootOf s := by
  have hnone : e.takeWhile (· = '/') = [] := by
    cases e with
    | nil => rfl
    | cons c e =>
      have hc : '/' ≠ c := List.ne_of_not_mem_cons he
      exact List.takeWhile_cons_of_neg (by simpa using hc.symm)
  have hslashes : (s ++ e).takeWhile (· = '/') = s.takeWhile (· = '/') := by
    rw [List.takeWhile_append, hnone, List.append_nil]
    split
    case isTrue hall => exact ((List.takeWhile_prefix _).eq_of_length hall).symm
    case isFalse => rfl
  rw [rootOf, hslashes, rootOf]

/-- No component of dots comes from an ending. -/
theorem IsEnding.append_ne (he : IsEnding e) {p : String} (hp : p.toList.length < 3) (s : String) :
    s ++ e ≠ p := by
  rintro rfl
  have hlength := he.length
  rw [String.toList_append, List.length_append] at hp
  omega

/-- The components of a path, the last run of characters apart. -/
theorem parts_ofString (s : String) :
    (ofString s).parts =
      leading s ++ if lastRun s ≠ "" ∧ lastRun s ≠ "." then [lastRun s] else [] := by
  have hruns : splitSlash s.toList =
      (splitSlash s.toList).dropLast ++ [(splitSlash s.toList).getLastD []] := by
    simpa using splitSlash_append (e := []) List.not_mem_nil s.toList
  have hempty : lastRun s = "" ↔ (splitSlash s.toList).getLastD [] = [] := by
    rw [← String.toList_inj, lastRun, String.toList_ofList]
    rfl
  have hdot : lastRun s = "." ↔ (splitSlash s.toList).getLastD [] = ['.'] := by
    rw [← String.toList_inj, lastRun, String.toList_ofList]
    rfl
  unfold ofString
  rw [hruns, List.filter_append, List.map_append]
  simp only [ne_eq, hempty, hdot]
  split
  case isTrue hkeep => rw [List.filter_cons_of_pos (by simpa using hkeep)]; rfl
  case isFalse hdrop => rw [List.filter_cons_of_neg (by simpa using hdrop)]; rfl

theorem lastRun_append (he : '/' ∉ e.toList) (s : String) : lastRun (s ++ e) = lastRun s ++ e := by
  rw [lastRun, String.toList_append, splitSlash_append he, List.getLastD_concat,
    String.ofList_append, String.ofList_toList, lastRun]

theorem leading_append (he : '/' ∉ e.toList) (s : String) : leading (s ++ e) = leading s := by
  rw [leading, String.toList_append, splitSlash_append he, List.dropLast_concat, leading]

/-- The path of a text with an ending. -/
theorem ofString_append (he : IsEnding e) (s : String) :
    ofString (s ++ e) = ⟨rootOf s.toList, leading s ++ [lastRun s ++ e]⟩ := by
  have hroot : (ofString (s ++ e)).root = rootOf s.toList := by
    rw [ofString, String.toList_append, rootOf_append_of_not_mem he.slash]
  have hparts := parts_ofString (s ++ e)
  rw [lastRun_append he.slash, leading_append he.slash,
    if_pos ⟨he.append_ne (by decide) _, he.append_ne (by decide) _⟩] at hparts
  rw [← hroot, ← hparts]

/-- An ending goes to what follows the last slash. -/
theorem name_append (he : IsEnding e) (s : String) : (ofString (s ++ e)).name = lastRun s ++ e := by
  rw [ofString_append he]
  exact List.getLastD_concat

/-- The directory of a file is the same for all endings. -/
theorem parent_append (he : IsEnding e) (s : String) :
    (ofString (s ++ e)).parent = ⟨rootOf s.toList, leading s⟩ := by
  rw [ofString_append he, parent, List.dropLast_concat]

/-- The last component of a path is what follows the last slash of its text, unless the text goes
on after it. -/
theorem name_eq_lastRun_iff : (ofString s).name = lastRun s ↔ ¬ Trails s := by
  have hclean := (ofString_isClean s).parts
  have hparts := parts_ofString s
  unfold name Trails
  by_cases hkeep : lastRun s ≠ "" ∧ lastRun s ≠ "."
  · rw [hparts, if_pos hkeep, List.getLastD_concat]
    simp [hkeep]
  · have hrun : lastRun s = "" ∨ lastRun s = "." := by tauto
    rcases List.eq_nil_or_concat' (ofString s).parts with hnil | ⟨front, last, heq⟩
    · rw [hnil]
      rcases hrun with hrun | hrun <;> simp [hrun]
    · -- the last component stands before a slash or a dot, and is neither empty nor a dot
      obtain ⟨hne, hdot, -⟩ := hclean last (by simp [heq])
      rw [heq, List.getLastD_concat]
      rcases hrun with hrun | hrun <;> simp [hrun, hne, hdot]

/-- An ending goes to the last component of a path, unless the text goes on after it. -/
theorem name_append_iff (he : IsEnding e) :
    (ofString s).name ++ e = (ofString (s ++ e)).name ↔ ¬ Trails s := by
  rw [name_append he, String.append_left_inj, name_eq_lastRun_iff]

example : Trails "tiles/mars/" ∧ Trails "." ∧ ¬ Trails "tiles//mars.v2" ∧ ¬ Trails "//" := by decide

end QuadMosaic.Path
