import Mathlib
import QuadMosaic.Options.ToJson
import QuadMosaic.Options.Coerce
import QuadMosaic.Schema.MosaicConfig

/-!
# Members looked up and checked

A member is written under a key and read back by it; a member whose value is null is left out and
read back as null.  A closed object is valid when each of its members is one of those that its
schema knows and has a value that is valid there, so validity is settled member by member.
-/

namespace QuadMosaic

namespace Fields

theorem get?_append (a b : Fields) (key : String) :
    get? (a ++ b) key = (get? a key).or (get? b key) := by
  simp [get?, List.find?_append, Option.map_or]

theorem get?_unlessNull_of_ne {k key : String} (h : k ≠ key) (value : Json) :
    get? (unlessNull k value) key = none := by
  cases value <;> simp [unlessNull, get?_cons, h]

@[simp] theorem getD_get?_unlessNull (key : String) (value : Json) :
    (get? (unlessNull key value) key).getD .null = value := by
  cases value <;> simp [unlessNull, get?_cons]

@[simp] theorem dropNulls_nil : dropNulls [] = [] := rfl

@[simp] theorem dropNulls_cons (key : String) (value : Json) (rest : Fields) :
    dropNulls ((key, value) :: rest) = unlessNull key value ++ dropNulls rest := rfl

theorem get?_eq_none_of_not_mem {fields : Fields} {key : String} (h : key ∉ keys fields) :
    get? fields key = none := by
  simp only [keys, List.mem_map, not_exists, not_and] at h
  simpa [get?] using h

/-- A member is found among those that are not null exactly when it is not null itself. -/
theorem get?_dropNulls {fields : Fields} (h : (keys fields).Nodup) (key : String) :
    get? (dropNulls fields) key = (get? fields key).filter fun v ↦ !(v matches .null) := by
  induction fields with
  | nil => rfl
  | cons f rest ih =>
    obtain ⟨k, v⟩ := f
    obtain ⟨hk, hrest⟩ := List.nodup_cons.1 h
    rw [dropNulls_cons, get?_append, get?_cons, ih hrest]
    by_cases heq : k = key
    · subst heq
      rw [get?_eq_none_of_not_mem hk, if_pos rfl, Option.filter_none, Option.or_none]
      cases v <;> simp only [unlessNull, get?_cons, if_true, get?_nil] <;> rfl
    · rw [get?_unlessNull_of_ne heq, if_neg heq, Option.none_or]

theorem getD_dropNulls {fields : Fields} (h : (keys fields).Nodup) (key : String) :
    getD (dropNulls fields) key = getD fields key := by
  rw [getD, getD, get?_dropNulls h]
  rcases get? fields key with - | v
  · rfl
  · cases v <;> rfl

theorem mem_of_get? {fields : Fields} {key : String} {value : Json}
    (h : get? fields key = some value) : (key, value) ∈ fields := by
  obtain ⟨⟨k, v⟩, hfind, rfl⟩ := Option.map_eq_some_iff.1 h
  obtain rfl : k = key := by simpa using List.find?_some hfind
  exact List.mem_of_find?_eq_some hfind

theorem forall_mem_unlessNull {p : String × Json → Prop} {key : String} {value : Json} :
    (∀ f ∈ unlessNull key value, p f) ↔ (value ≠ .null → p (key, value)) := by
  cases value <;> simp [unlessNull]

end Fields

namespace Schema

variable {schema : Schema} {value : Json}

/-! ## Values without parts -/

theorem ownCauses_eq_nil_iff {kinds : List Kind} {choices : Option (List Json)}
    {required : List String} {nonEmpty : Bool} {least greatest floor : Option Int} :
    ownCauses kinds choices required nonEmpty least greatest floor value = [] ↔
      (kinds = [] ∨ kinds.any (·.holds value)) ∧
      (∀ words, choices = some words → words.any (·.same value)) ∧
      (∀ fields, value = .obj fields → ∀ k ∈ required, Fields.has fields k) ∧
      (nonEmpty → isHollow value = false) ∧
      (∀ b, least = some b → isBelow value b = false) ∧
      (∀ b, greatest = some b → isAbove value b = false) ∧
      (∀ b, floor = some b → isAtMost value b = false) := by
  simp only [ownCauses, List.append_eq_nil_iff, and_assoc]
  refine and_congr ?_ (and_congr ?_ (and_congr ?_ (and_congr ?_ (and_congr ?_ (and_congr ?_ ?_)))))
  · simp [or_iff_not_imp_left]
  · cases choices <;> simp
  · cases value <;> simp
  · simp
  · cases least <;> simp [Option.filter]
  · cases greatest <;> simp [Option.filter]
  · cases floor <;> simp [Option.filter]

theorem same_str_iff {s : String} : Json.same (.str s) value ↔ value = .str s := by
  cases value with
  | str t => simpa [Json.same] using eq_comm
  | _ => simp [Json.same]

/-- A schema that says nothing of the parts of a value is obeyed when the value itself is right. -/
theorem accepts_leaf_iff {kinds : List Kind} {choices : Option (List Json)} {nonEmpty : Bool}
    {least greatest floor : Option Int} :
    Accepts { kinds, choices, nonEmpty, least, greatest, floor } value ↔
      ownCauses kinds choices [] nonEmpty least greatest floor value = [] := by
  simp [Accepts, violations, memberViolations, otherViolations, itemViolations]

theorem accepts_ofKinds_iff {kinds : List Kind} :
    (ofKinds kinds).Accepts value ↔ kinds = [] ∨ kinds.any (·.holds value) := by
  rw [ofKinds, accepts_leaf_iff, ownCauses_eq_nil_iff]
  simp

/-- A number is valid when it is of the kind asked for and within the bounds. -/
theorem accepts_number_iff {kinds : List Kind} {least greatest floor : Option Int} :
    Accepts { kinds, least, greatest, floor } value ↔
      (kinds = [] ∨ kinds.any (·.holds value)) ∧
      (∀ b, least = some b → isBelow value b = false) ∧
      (∀ b, greatest = some b → isAbove value b = false) ∧
      (∀ b, floor = some b → isAtMost value b = false) := by
  rw [accepts_leaf_iff, ownCauses_eq_nil_iff]
  simp

theorem accepts_real (x : Float) : (ofKinds [.number]).Accepts (.real x) :=
  accepts_ofKinds_iff.2 (.inr rfl)

theorem accepts_bool (b : Bool) : (ofKinds [.boolean]).Accepts (.bool b) :=
  accepts_ofKinds_iff.2 (.inr rfl)

theorem accepts_atLeast_one {kinds : List Kind} (hkinds : Kind.integer ∈ kinds) {n : Int}
    (hn : 0 < n) : Accepts { kinds, least := some 1 } (.int n) := by
  refine accepts_number_iff.2 ⟨.inr (List.any_eq_true.2 ⟨_, hkinds, rfl⟩), ?_, by simp, by simp⟩
  rintro b ⟨⟩
  exact decide_eq_false (Int.not_lt.2 hn)

theorem accepts_oneWordOf_iff {words : List String} :
    (oneWordOf words).Accepts value ↔ ∃ w ∈ words, value = .str w := by
  rw [oneWordOf, accepts_leaf_iff, ownCauses_eq_nil_iff]
  cases value <;> simp [Kind.holds, same_str_iff]

theorem accepts_someText_iff : someText.Accepts value ↔ ∃ s, value = .str s ∧ s ≠ "" := by
  rw [someText, accepts_leaf_iff, ownCauses_eq_nil_iff]
  cases value <;> simp [Kind.holds, isHollow]

/-- A text is shown as it is. -/
theorem accepts_display (h : someText.Accepts value) : someText.Accepts (.str value.display) := by
  obtain ⟨s, rfl, -⟩ := accepts_someText_iff.1 h
  exact h

/-! ## Arrays and closed objects -/

/-- An array is valid when its items are, and it has some if it must. -/
theorem accepts_array {nonEmpty : Bool} {items : List Json} (hne : nonEmpty = true → items ≠ [])
    (h : ∀ v ∈ items, schema.Accepts v) :
    Accepts { kinds := [.array], nonEmpty, items := some schema } (.arr items) := by
  have hown : ownCauses [.array] none [] nonEmpty none none none (.arr items) = [] := by
    simpa [ownCauses_eq_nil_iff, Kind.holds, isHollow] using hne
  simp only [Accepts, violations, hown, memberViolations, otherViolations, itemViolations,
    List.map_nil, List.nil_append, Bool.false_and, Bool.false_eq_true, if_false,
    List.flatMap_eq_nil_iff]
  rintro ⟨v, i⟩ hv
  rw [h v (List.fst_mem_of_mem_zipIdx hv), List.map_nil]

theorem exists_of_accepts_array {nonEmpty : Bool}
    (h : Accepts { kinds := [.array], nonEmpty, items := some schema } value) :
    ∃ items, value = .arr items ∧ ∀ v ∈ items, schema.Accepts v := by
  cases value with
  | arr items =>
    refine ⟨items, rfl, fun v hv ↦ ?_⟩
    simp only [Accepts, violations, List.append_eq_nil_iff, itemViolations,
      List.flatMap_eq_nil_iff] at h
    obtain ⟨i, hi, rfl⟩ := List.getElem_of_mem hv
    exact List.map_eq_nil_iff.1 (List.forall_mem_zipIdx'.1 h.2 i hi)
  | _ => simp [Accepts, violations, ownCauses, Kind.holds] at h

theorem memberViolations_eq_nil_iff {members : List (String × Schema)} {fields : Fields} :
    memberViolations members (.obj fields) = [] ↔
      ∀ m ∈ members, ∀ v, fields.get? m.1 = some v → m.2.Accepts v := by
  induction members with
  | nil => simp [memberViolations]
  | cons m members ih =>
    obtain ⟨key, schema⟩ := m
    rw [memberViolations, List.append_eq_nil_iff, ih, List.forall_mem_cons]
    refine and_congr_left fun _ ↦ ?_
    cases fields.get? key <;> simp [Accepts]

/-- A closed object has all members that it must have, no others than it may have, and each of them
is valid. -/
theorem accepts_closedObject_iff {required : List String} {members : List (String × Schema)} :
    (closedObject required members).Accepts value ↔ ∃ fields, value = .obj fields ∧
      (∀ k ∈ required, Fields.has fields k) ∧
      (∀ m ∈ members, ∀ v, Fields.get? fields m.1 = some v → m.2.Accepts v) ∧
      ∀ f ∈ fields, f.1 ∈ members.map (·.1) := by
  cases value with
  | obj fields =>
    rw [Accepts, closedObject, violations]
    simp only [List.append_eq_nil_iff, memberViolations_eq_nil_iff, List.map_eq_nil_iff,
      ownCauses_eq_nil_iff]
    simp [Kind.holds, otherViolations, itemViolations, and_assoc]
  | _ => simp [Accepts, closedObject, violations, ownCauses, Kind.holds]

theorem mem_of_lookup {members : List (String × Schema)} {key : String}
    (h : members.lookup key = some schema) : (key, schema) ∈ members := by
  obtain ⟨before, after, rfl, -⟩ := List.lookup_eq_some_iff.1 h
  exact List.mem_append_right before List.mem_cons_self

/-- A member that an object may have, with a valid value. -/
def Admits (members : List (String × Schema)) (f : String × Json) : Prop :=
  ∃ schema, members.lookup f.1 = some schema ∧ schema.Accepts f.2

/-- A member that is left out when there is nothing to write. -/
theorem admits_ofOption {α : Type} {members : List (String × Schema)} {key : String} {f : α → Json}
    {a? : Option α} (h : ∀ a ∈ a?, Admits members (key, f a))
    (hne : Json.ofOption f a? ≠ .null) : Admits members (key, Json.ofOption f a?) := by
  cases a? with
  | none => exact absurd rfl hne
  | some a => exact h a rfl

section

variable {required : List String} {members : List (String × Schema)} {fields : Fields}
  {key : String}

/-- An object of members that it may have is valid when no member is missing. -/
theorem accepts_closedObject (hkeys : (members.map (·.1)).Nodup)
    (hrequired : ∀ k ∈ required, Fields.has fields k)
    (hfields : ∀ f ∈ fields, Admits members f) :
    (closedObject required members).Accepts (.obj fields) := by
  refine accepts_closedObject_iff.2 ⟨fields, rfl, hrequired, fun m hm v hv ↦ ?_, fun f hf ↦ ?_⟩
  · obtain ⟨schema, hlookup, haccepts⟩ := hfields _ (Fields.mem_of_get? hv)
    have hsame := List.inj_on_of_nodup_map hkeys hm (mem_of_lookup hlookup) rfl
    rw [hsame]
    exact haccepts
  · obtain ⟨schema, hlookup, -⟩ := hfields f hf
    exact List.mem_map_of_mem (mem_of_lookup hlookup)

theorem Accepts.get? (h : (closedObject required members).Accepts (.obj fields))
    (hkey : members.lookup key = some schema) (hvalue : fields.get? key = some value) :
    schema.Accepts value := by
  obtain ⟨_, ⟨⟩, -, hmembers, -⟩ := accepts_closedObject_iff.1 h
  exact hmembers _ (mem_of_lookup hkey) value hvalue

/-- A member of a valid object that is not null is valid. -/
theorem Accepts.getD (h : (closedObject required members).Accepts (.obj fields))
    (hkey : members.lookup key = some schema) (hne : fields.getD key ≠ .null) :
    schema.Accepts (fields.getD key) := by
  unfold Fields.getD at hne ⊢
  cases hvalue : Fields.get? fields key with
  | none =>
    rw [hvalue] at hne
    exact absurd rfl hne
  | some value => exact h.get? hkey hvalue

/-- A member of a valid object is valid when its default is. -/
theorem Accepts.getOr (h : (closedObject required members).Accepts (.obj fields))
    (hkey : members.lookup key = some schema) {default : Json} (hdefault : schema.Accepts default) :
    schema.Accepts (fields.getOr key default) := by
  unfold Fields.getOr
  cases hvalue : Fields.get? fields key with
  | none => exact hdefault
  | some value => exact h.get? hkey hvalue

/-- Nothing given stands for an object without members. -/
theorem Accepts.toMembers (h : value ≠ .null → (closedObject [] members).Accepts value)
    (hfields : value.toMembers = .ok fields) : (closedObject [] members).Accepts (.obj fields) := by
  cases value with
  | null =>
    cases hfields
    exact accepts_closedObject_iff.2 ⟨[], rfl, by simp, by simp, by simp⟩
  | obj _ =>
    cases hfields
    exact h Json.noConfusion
  | _ =>
    obtain ⟨_, heq, -⟩ := accepts_closedObject_iff.1 (h Json.noConfusion)
    cases heq

end

end Schema

end QuadMosaic
