import QuadMosaic.Compose.Engine

/-!
# Actions on a state

An action that went through, or failed, is read back here to the steps it took, as results without a
state are.  The log, the files and the whole session of a run are such states.
-/

namespace QuadMosaic

namespace Action

variable {σ β γ : Type} {s s' : σ}

/-- An action in two steps went through both. -/
theorem exists_of_bind_eq_ok {x : EStateM Fault σ β} {f : β → EStateM Fault σ γ} {c : γ}
    (h : (x >>= f) s = .ok c s') : ∃ b mid, x s = .ok b mid ∧ f b mid = .ok c s' := by
  change EStateM.bind x f s = .ok c s' at h
  unfold EStateM.bind at h
  split at h
  case h_1 b mid hx => exact ⟨b, mid, hx, h⟩
  case h_2 => cases h

/-- An action in two steps fails in its first step or after it. -/
theorem cases_of_bind_eq_error {x : EStateM Fault σ β} {f : β → EStateM Fault σ γ} {e : Fault}
    (h : (x >>= f) s = .error e s') :
    x s = .error e s' ∨ ∃ b mid, x s = .ok b mid ∧ f b mid = .error e s' := by
  change EStateM.bind x f s = .error e s' at h
  unfold EStateM.bind at h
  split at h
  case h_1 b mid hx => exact .inr ⟨b, mid, hx, h⟩
  case h_2 e' mid hx =>
    cases h
    exact .inl hx

/-- An action whose first step goes through goes on with the second. -/
theorem bind_of_eq_ok {x : EStateM Fault σ β} {f : β → EStateM Fault σ γ} {b : β} {mid : σ}
    (h : x s = .ok b mid) : (x >>= f) s = f b mid := by
  change EStateM.bind x f s = _
  unfold EStateM.bind
  rw [h]

/-- An action whose first step fails does not come to the second. -/
theorem bind_of_eq_error {x : EStateM Fault σ β} {f : β → EStateM Fault σ γ} {e : Fault}
    (h : x s = .error e s') : (x >>= f) s = .error e s' := by
  change EStateM.bind x f s = _
  unfold EStateM.bind
  rw [h]

end Action

namespace Logging

/-- A result that needs no log leaves it as it is. -/
theorem eq_ok_of_ofExcept {β : Type} {x : Except Fault β} {b : β} {log log' : List LogRecord}
    (h : ofExcept x log = .ok b log') : x = .ok b ∧ log' = log := by
  cases x with
  | ok c =>
    cases h
    exact ⟨rfl, rfl⟩
  | error e => cases h

/-- A result that needs no log leaves it to the next step. -/
theorem exists_of_ofExcept_bind {β γ : Type} {x : Except Fault β} {f : β → Logging γ} {c : γ}
    {log log' : List LogRecord} (h : (ofExcept x >>= f) log = .ok c log') :
    ∃ b, x = .ok b ∧ f b log = .ok c log' := by
  obtain ⟨b, mid, htake, hafter⟩ := Action.exists_of_bind_eq_ok h
  obtain ⟨hx, rfl⟩ := eq_ok_of_ofExcept htake
  exact ⟨b, hx, hafter⟩

theorem ofExcept_bind {β γ : Type} {x : Except Fault β} {f : β → Logging γ} {b : β}
    {log : List LogRecord} (h : x = .ok b) : (ofExcept x >>= f) log = f b log := by
  rw [h]
  rfl

end Logging

end QuadMosaic
