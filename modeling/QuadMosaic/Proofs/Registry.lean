import Mathlib.Data.List.Induction
import Mathlib.Data.List.Nodup
import QuadMosaic.Tiles.Registry

/-!
# The table of writers

A table of writers is made of announcements one by one: each writes its factory under its name, or
changes nothing (`Registry.enrol_eq`).  So a name leads to the last factory announced under it that
could be loaded, and the name of the built-in writer to that (`Registry.find?_discover_iff`).  No
name stands twice in a table, which is therefore listed by what is found under each name
(`Registry.mem_list_iff`).
-/

namespace QuadMosaic

namespace Registry

variable {table : Table} {announced : List Announcement} {name : String} {factory : Factory}
  {writer : TileWriter}

/-! ## Tables -/

theorem find?_cons (n : String) (f : Factory) (rest : Table) (name : String) :
    Table.find? ((n, f) :: rest) name = if n = name then some f else Table.find? rest name := by
  by_cases h : n = name <;> simp [Table.find?, h]

theorem find?_put (table : Table) (name : String) (factory : Factory) (other : String) :
    (table.put name factory).find? other =
      if name = other then some factory else table.find? other := by
  induction table with
  | nil => exact find?_cons name factory [] other
  | cons e rest ih =>
    obtain ⟨n, f⟩ := e
    unfold Table.put
    by_cases h : n = name
    · subst h
      rw [if_pos rfl, find?_cons, find?_cons]
      split <;> rfl
    · rw [if_neg h, find?_cons, find?_cons, ih]
      by_cases h' : n = other
      · rw [if_pos h', if_pos h', if_neg fun heq ↦ h (h'.trans heq.symm)]
      · rw [if_neg h', if_neg h']

theorem map_fst_put (table : Table) (name : String) (factory : Factory) :
    (table.put name factory).map (·.1) =
      if name ∈ table.map (·.1) then table.map (·.1) else table.map (·.1) ++ [name] := by
  induction table with
  | nil => rfl
  | cons e rest ih =>
    obtain ⟨n, f⟩ := e
    unfold Table.put
    by_cases h : n = name
    · simp [h]
    · simp only [if_neg h, List.map_cons, ih, List.mem_cons, or_iff_right (Ne.symm h)]
      split <;> rfl

theorem nodup_put (h : (table.map (·.1)).Nodup) (name : String) (factory : Factory) :
    ((table.put name factory).map (·.1)).Nodup := by
  rw [map_fst_put]
  split
  case isTrue => exact h
  case isFalse hname => exact h.append (List.nodup_singleton name) (by simpa using hname)

theorem mem_map_fst_iff (table : Table) (name : String) :
    name ∈ table.map (·.1) ↔ ∃ factory, table.find? name = some factory := by
  induction table with
  | nil => simp [Table.find?]
  | cons e rest ih =>
    obtain ⟨n, f⟩ := e
    rw [find?_cons, List.map_cons, List.mem_cons, ih]
    by_cases h : n = name
    · simp [h]
    · simp [h, Ne.symm h]

/-- In a table where no name stands twice, an entry is what is found under its name. -/
theorem mem_iff_find? (h : (table.map (·.1)).Nodup) :
    (name, factory) ∈ table ↔ table.find? name = some factory := by
  induction table with
  | nil => simp [Table.find?]
  | cons e rest ih =>
    obtain ⟨n, f⟩ := e
    obtain ⟨hn, hrest⟩ := List.nodup_cons.1 h
    rw [find?_cons, List.mem_cons, ih hrest, Prod.mk.injEq]
    by_cases heq : n = name
    · subst heq
      have hnone (g : Factory) : Table.find? rest n ≠ some g :=
        fun hg ↦ hn ((mem_map_fst_iff rest n).2 ⟨g, hg⟩)
      simp [hnone, eq_comm]
    · simp [heq, Ne.symm heq]

/-! ## Announcements -/

/-- The factory of the built-in writer. -/
def planFactory : Factory :=
  .maker (some TileWriter.planSpec) (some (TileWriter.generatePlan .rounded))

/-- What an announcement adds to a table: nothing under a reserved name, or when it cannot be
loaded. -/
def addition? (a : Announcement) : Option Factory :=
  if a.name = "plan" then none else a.loading.toOption

theorem addition?_eq_some_iff {a : Announcement} :
    addition? a = some factory ↔ a.name ≠ "plan" ∧ a.loading = .ok factory := by
  unfold addition?
  cases a.loading <;> simp [Except.toOption]

theorem find?_builtin (name : String) :
    Table.find? builtin name = if "plan" = name then some planFactory else none :=
  find?_cons "plan" planFactory [] name

/-- An announcement writes its factory under its name, or changes nothing. -/
theorem enrol_eq (table : Table) (a : Announcement) : enrol table a =
    match addition? a with
    | some factory => table.put a.name factory
    | none => table := by
  unfold enrol refusal? addition?
  rw [find?_builtin]
  by_cases h : a.name = "plan"
  · simp [h]
  · cases hloading : a.loading <;> simp [h, Ne.symm h, Except.toOption]

theorem discover_concat (announced : List Announcement) (a : Announcement) :
    discover (announced ++ [a]) = enrol (discover announced) a := by
  unfold discover
  rw [List.foldl_concat]

theorem nodup_discover (announced : List Announcement) :
    ((discover announced).map (·.1)).Nodup := by
  induction announced using List.reverseRecOn with
  | nil => exact List.nodup_singleton "plan"
  | append_singleton announced a ih =>
    rw [discover_concat, enrol_eq]
    cases addition? a with
    | none => exact ih
    | some factory => exact nodup_put ih a.name factory

/-- The last announcement of a name that can be loaded leads to a factory. -/
def LastLoads (announced : List Announcement) (name : String) (factory : Factory) : Prop :=
  ∃ before a after, announced = before ++ a :: after ∧ a.name = name ∧ a.loading = .ok factory ∧
    ∀ b ∈ after, b.name = name → ∃ text, b.loading = .error text

theorem lastLoads_nil : ¬ LastLoads [] name factory := by
  rintro ⟨before, a, after, h, -⟩
  exact List.append_ne_nil_of_right_ne_nil before (List.cons_ne_nil a after) h.symm

theorem lastLoads_concat_iff {a : Announcement} : LastLoads (announced ++ [a]) name factory ↔
    (a.name = name ∧ a.loading = .ok factory) ∨
      (a.name = name → ∃ text, a.loading = .error text) ∧ LastLoads announced name factory := by
  constructor
  · rintro ⟨before, b, after, h, hname, hloading, hafter⟩
    rcases List.eq_nil_or_concat after with rfl | ⟨after, c, rfl⟩
    · obtain ⟨-, hlast⟩ := List.append_inj' h rfl
      cases hlast
      exact .inl ⟨hname, hloading⟩
    · rw [List.concat_eq_append] at h hafter
      rw [← List.cons_append, ← List.append_assoc] at h
      obtain ⟨rfl, hlast⟩ := List.append_inj' h rfl
      cases hlast
      obtain ⟨hafter, ha⟩ := List.forall_mem_append.1 hafter
      exact .inr ⟨List.forall_mem_singleton.1 ha, before, b, after, rfl, hname, hloading, hafter⟩
  · rintro (⟨hname, hloading⟩ | ⟨ha, before, b, after, rfl, hname, hloading, hafter⟩)
    · exact ⟨announced, a, [], rfl, hname, hloading, nofun⟩
    · refine ⟨before, b, after ++ [a], by simp, hname, hloading, ?_⟩
      exact List.forall_mem_append.2 ⟨hafter, List.forall_mem_singleton.2 ha⟩

theorem exists_lastLoads_iff : (∃ factory, LastLoads announced name factory) ↔
    ∃ a ∈ announced, a.name = name ∧ ∃ factory, a.loading = .ok factory := by
  induction announced using List.reverseRecOn with
  | nil => simp [lastLoads_nil]
  | append_singleton announced a ih =>
    simp only [lastLoads_concat_iff, exists_or, exists_and_left, ih, List.mem_append,
      List.mem_singleton, or_and_right, exists_eq_left]
    cases a.loading <;> by_cases h : a.name = name <;> simp [h]

/-- A name leads to the last factory announced under it that could be loaded; that of the built-in
writer leads to the built-in writer. -/
theorem find?_discover_iff (announced : List Announcement) (name : String) (factory : Factory) :
    (discover announced).find? name = some factory ↔
      (name = "plan" ∧ factory = planFactory) ∨
        (name ≠ "plan" ∧ LastLoads announced name factory) := by
  induction announced using List.reverseRecOn with
  | nil =>
    rw [show discover [] = builtin from rfl, find?_builtin]
    by_cases h : name = "plan"
    · simp [h, eq_comm]
    · simp [h, Ne.symm h, lastLoads_nil]
  | append_singleton announced a ih =>
    rw [discover_concat, enrol_eq, lastLoads_concat_iff]
    cases hadded : addition? a with
    | none =>
      have hlost (hplan : name ≠ "plan") (hname : a.name = name) :
          ∃ text, a.loading = .error text := by
        cases hloading : a.loading with
        | error text => exact ⟨text, rfl⟩
        | ok f =>
          rw [addition?_eq_some_iff.2 ⟨hname ▸ hplan, hloading⟩] at hadded
          cases hadded
      refine ih.trans (or_congr_right (and_congr_right fun hplan ↦ ⟨fun h ↦ ?_, ?_⟩))
      · exact .inr ⟨hlost hplan, h⟩
      · rintro (⟨hname, hloading⟩ | ⟨-, h⟩)
        · obtain ⟨text, htext⟩ := hlost hplan hname
          rw [htext] at hloading
          cases hloading
        · exact h
    | some f =>
      obtain ⟨hplan, hloading⟩ := addition?_eq_some_iff.1 hadded
      simp only [find?_put, hloading]
      by_cases h : a.name = name
      · subst h
        simp [hplan]
      · simp [h, ih]

theorem mem_names_discover_iff (announced : List Announcement) (name : String) :
    name ∈ names (discover announced) ↔
      name = "plan" ∨ ∃ a ∈ announced, a.name = name ∧ ∃ factory, a.loading = .ok factory := by
  unfold names
  rw [List.mem_mergeSort, mem_map_fst_iff]
  simp only [find?_discover_iff, exists_or, exists_and_left, exists_eq, and_true,
    exists_lastLoads_iff]
  by_cases h : name = "plan" <;> simp [h]

/-- The names stand in order, and none twice. -/
theorem pairwise_names (h : (table.map (·.1)).Nodup) : (names table).Pairwise (· < ·) := by
  have hsorted : (names table).Pairwise fun a b ↦ decide (a ≤ b) = true :=
    List.pairwise_mergeSort (by simpa using fun a b c ↦ String.le_trans)
      (by simpa using String.le_total) _
  have hnodup : (names table).Nodup := (List.mergeSort_perm _ _).nodup_iff.2 h
  refine (hsorted.and hnodup).imp fun ⟨hle, hne⟩ ↦ String.not_le.1 fun hge ↦ hne ?_
  exact String.le_antisymm (of_decide_eq_true hle) hge

/-- Whatever other packages announce, the built-in writer is there. -/
theorem get_discover (announced : List Announcement) :
    get (discover announced) "plan" = .ok TileWriter.plan := by
  unfold get
  rw [(find?_discover_iff announced "plan" planFactory).2 (.inl ⟨rfl, rfl⟩)]
  rfl

/-! ## Writers -/

theorem make_eq_ok_iff : make name factory = .ok writer ↔
    factory = .maker (some writer.spec) (some writer.generate) := by
  obtain ⟨spec, generate⟩ := writer
  unfold make
  split
  case h_1 => simp
  case h_2 => simp
  case h_3 h => simpa using h _ _

theorem get_eq_ok_iff : get table name = .ok writer ↔
    table.find? name = some (.maker (some writer.spec) (some writer.generate)) := by
  unfold get
  cases table.find? name with
  | none => simp
  | some factory => simp [make_eq_ok_iff]

/-- A writer is only missed for a reason of the configuration. -/
theorem exists_of_get_eq_error {e : Fault} (h : get table name = .error e) :
    ∃ cause, e = .config cause := by
  unfold get at h
  split at h
  case h_1 factory hfactory =>
    unfold make at h
    split at h
    all_goals cases h
    all_goals exact ⟨_, rfl⟩
  case h_2 =>
    cases h
    exact ⟨_, rfl⟩

theorem mem_list_iff (h : (table.map (·.1)).Nodup) :
    (name, writer) ∈ list table ↔ get table name = .ok writer := by
  rw [get_eq_ok_iff, ← mem_iff_find? h]
  unfold list
  rw [List.mem_filterMap]
  constructor
  · rintro ⟨⟨n, factory⟩, hmem, hlisted⟩
    cases hmake : make n factory with
    | ok w =>
      simp only [hmake, Option.some.injEq, Prod.mk.injEq] at hlisted
      obtain ⟨rfl, rfl⟩ := hlisted
      rwa [← make_eq_ok_iff.1 hmake]
    | error e => simp [hmake] at hlisted
  · intro hmem
    refine ⟨_, hmem, ?_⟩
    rfl

theorem list_cons (n : String) (factory : Factory) (rest : Table) :
    list ((n, factory) :: rest) =
      match make n factory with
      | .ok w => (n, w) :: list rest
      | .error _ => list rest := by
  unfold list
  rw [List.filterMap_cons]
  cases h : make n factory <;> simp [h]

theorem nodup_list (h : (table.map (·.1)).Nodup) : ((list table).map (·.1)).Nodup := by
  refine h.sublist ?_
  clear h
  induction table with
  | nil => exact .slnil
  | cons e rest ih =>
    obtain ⟨n, factory⟩ := e
    rw [list_cons]
    cases make n factory with
    | ok w => exact ih.cons_cons n
    | error e => exact ih.cons n

end Registry

end QuadMosaic
