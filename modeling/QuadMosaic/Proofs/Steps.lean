import Mathlib.Data.List.Forall2

/-!
# Chains of steps

What is computed in steps of which some may fail is read back here: from the result of a chain to
the results of its steps, from a search to the tests it made, and from a loop that changes nothing
to its start.
-/

namespace QuadMosaic

section

variable {β γ ε : Type}

/-- A chain that gives a result went through its first step. -/
theorem exists_of_bind_eq_ok {x : Except ε β} {f : β → Except ε γ} {c : γ}
    (h : (x >>= f) = .ok c) : ∃ b, x = .ok b ∧ f b = .ok c := by
  cases x with
  | error e => cases h
  | ok b => exact ⟨b, rfl, h⟩

/-- A chain whose first step gives a result goes on with it. -/
theorem bind_of_eq_ok {x : Except ε β} {f : β → Except ε γ} {b : β} (h : x = .ok b) :
    (x >>= f) = f b := by
  rw [h]
  rfl

theorem eq_ok_of_map_some {x : Except ε β} {b : β} (h : x.map some = .ok (some b)) : x = .ok b := by
  cases x with
  | error e => cases h
  | ok c => rw [Option.some.inj (Except.ok.inj h)]

theorem eq_ok_of_toOption {x : Except ε β} {b : β} (h : x.toOption = some b) : x = .ok b := by
  cases x with
  | error e => cases h
  | ok c => exact congrArg Except.ok (Option.some.inj h)

/-- A chain that fails does so in its first step or after it. -/
theorem cases_of_bind_eq_error {x : Except ε β} {f : β → Except ε γ} {e : ε}
    (h : (x >>= f) = .error e) : x = .error e ∨ ∃ b, x = .ok b ∧ f b = .error e := by
  cases x with
  | error e' => exact .inl (congrArg Except.error (Except.error.inj h))
  | ok b => exact .inr ⟨b, rfl, h⟩

/-- What fails is what gives no result. -/
theorem exists_eq_error_iff {x : Except ε β} : (∃ e, x = .error e) ↔ ¬ ∃ b, x = .ok b := by
  cases x <;> simp

/-- Steps that all go through give their results in order. -/
theorem forall₂_of_mapM {f : β → Except ε γ} {l : List β} {cs : List γ} (h : l.mapM f = .ok cs) :
    List.Forall₂ (fun b c ↦ f b = .ok c) l cs := by
  induction l generalizing cs with
  | nil =>
    cases h
    exact .nil
  | cons b l ih =>
    rw [List.mapM_cons] at h
    obtain ⟨c, hc, h⟩ := exists_of_bind_eq_ok h
    obtain ⟨cs', hcs', h⟩ := exists_of_bind_eq_ok h
    cases h
    exact .cons hc (ih hcs')

/-- Each result of a list of steps is that of one of them. -/
theorem exists_of_mem_mapM {f : β → Except ε γ} {l : List β} {cs : List γ}
    (h : l.mapM f = .ok cs) {c : γ} (hc : c ∈ cs) : ∃ b ∈ l, f b = .ok c := by
  obtain ⟨i, hi, rfl⟩ := List.getElem_of_mem hc
  have hall := forall₂_of_mapM h
  have hi' : i < l.length := hall.length_eq ▸ hi
  exact ⟨l[i], List.getElem_mem hi', hall.get hi' hi⟩

/-- Steps that all go through go through each. -/
theorem exists_of_mapM_of_mem {f : β → Except ε γ} {l : List β} {cs : List γ}
    (h : l.mapM f = .ok cs) {b : β} (hb : b ∈ l) : ∃ c ∈ cs, f b = .ok c := by
  obtain ⟨i, hi, rfl⟩ := List.getElem_of_mem hb
  have hall := forall₂_of_mapM h
  have hi' : i < cs.length := hall.length_eq ▸ hi
  exact ⟨cs[i], List.getElem_mem hi', hall.get hi hi'⟩

/-- A list of steps has as many results. -/
theorem length_of_mapM {f : β → Except ε γ} {l : List β} {cs : List γ} (h : l.mapM f = .ok cs) :
    cs.length = l.length := (forall₂_of_mapM h).length_eq.symm

/-- Steps that undo a function give back the list that it was applied to. -/
theorem mapM_map_eq_ok {f : β → Except ε γ} {g : γ → β} {l : List γ}
    (h : ∀ c ∈ l, f (g c) = .ok c) : (l.map g).mapM f = .ok l := by
  induction l with
  | nil => rfl
  | cons c l ih =>
    obtain ⟨hc, hl⟩ := List.forall_mem_cons.1 h
    rw [List.map_cons, List.mapM_cons, bind_of_eq_ok hc, bind_of_eq_ok (ih hl)]
    rfl

/-- What every step that goes through keeps, a list of steps keeps. -/
theorem keeps_of_foldlM {P : γ → Prop} {f : γ → β → Except ε γ} {l : List β} {c d : γ}
    (h : ∀ c, ∀ b ∈ l, ∀ d, f c b = .ok d → P c → P d) (hd : l.foldlM f c = .ok d) (hc : P c) :
    P d := by
  induction l generalizing c with
  | nil =>
    cases hd
    exact hc
  | cons b l ih =>
    rw [List.foldlM_cons] at hd
    obtain ⟨mid, hmid, hd⟩ := exists_of_bind_eq_ok hd
    exact ih (fun c b hb ↦ h c b (List.mem_cons_of_mem _ hb)) hd
      (h c b List.mem_cons_self mid hmid hc)

/-- Steps that all leave a state as it is lead nowhere. -/
theorem foldl_eq_self {f : β → γ → β} {b : β} {l : List γ} (h : ∀ c ∈ l, f b c = b) :
    l.foldl f b = b := by
  induction l with
  | nil => rfl
  | cons c l ih =>
    rw [List.foldl_cons, h c List.mem_cons_self]
    exact ih fun d hd ↦ h d (List.mem_cons_of_mem c hd)

end

/-! ## Searching a list -/

section

variable {β ε : Type} {p : β → Except ε Bool}

/-- A test that may fail, as a test that says no when it fails. -/
def passes (p : β → Except ε Bool) (b : β) : Bool :=
  match p b with
  | .ok answer => answer
  | .error _ => false

theorem passes_eq_true {b : β} : passes p b = true ↔ p b = .ok true := by
  unfold passes
  cases p b <;> simp

theorem filterAuxM_cases (l acc : List β) :
    (∃ b ∈ l, ∃ e, p b = .error e ∧ l.filterAuxM p acc = .error e) ∨
      l.filterAuxM p acc = .ok ((l.filter (passes p)).reverse ++ acc) := by
  induction l generalizing acc with
  | nil => exact .inr rfl
  | cons b l ih =>
    rw [List.filterAuxM]
    cases hb : p b with
    | error e => exact .inl ⟨b, List.mem_cons_self, e, hb, rfl⟩
    | ok answer =>
      rcases ih (cond answer (b :: acc) acc) with ⟨c, hc, e, he, herror⟩ | hok
      · exact .inl ⟨c, List.mem_cons_of_mem b hc, e, he, herror⟩
      · right
        have hpasses : passes p b = answer := by rw [passes, hb]
        refine hok.trans ?_
        cases answer with
        | false => rw [List.filter_cons_of_neg (by rw [hpasses]; decide), cond_false]
        | true => simp [List.filter_cons_of_pos hpasses]

/-- A search by a test that may fail: it fails with the test, or finds what passes. -/
theorem filterM_cases (p : β → Except ε Bool) (l : List β) :
    (∃ b ∈ l, ∃ e, p b = .error e ∧ l.filterM p = .error e) ∨
      l.filterM p = .ok (l.filter (passes p)) := by
  unfold List.filterM
  rcases filterAuxM_cases (p := p) l [] with ⟨b, hb, e, he, herror⟩ | hok
  · exact .inl ⟨b, hb, e, he, by rw [herror]; rfl⟩
  · right
    rw [hok]
    change Except.ok ((l.filter (passes p)).reverse ++ []).reverse = _
    rw [List.append_nil, List.reverse_reverse]

end

end QuadMosaic
