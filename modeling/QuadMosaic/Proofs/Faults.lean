import QuadMosaic.Proofs.Actions
import QuadMosaic.Proofs.Steps

/-!
# Which failures can arise

What fails in steps fails in one of them, so a bound on the failures of a chain is put together from
bounds on the failures of its steps.  The bound of a later step may use what an earlier step gave.

The same is said of results and of actions on a state, for which the bound holds in every state.
-/

namespace QuadMosaic

/-- All failures of a result are of one kind. -/
def FailsOnly {β : Type} (P : Fault → Prop) (x : Except Fault β) : Prop :=
  ∀ e, x = .error e → P e

namespace FailsOnly

variable {β γ : Type} {P Q : Fault → Prop} {x : Except Fault β}

theorem ok (b : β) : FailsOnly P (.ok b : Except Fault β) := fun _ h ↦ by cases h

theorem error {e : Fault} (h : P e) : FailsOnly P (.error e : Except Fault β) := by
  intro e' h'
  cases h'
  exact h

theorem mono (h : FailsOnly P x) (hPQ : ∀ e, P e → Q e) : FailsOnly Q x := fun e he ↦ hPQ e (h e he)

theorem ofExcept (h : FailsOnly P x) : FailsOnly P (MonadExcept.ofExcept x : Except Fault β) := by
  cases x with
  | ok b => exact ok b
  | error e => exact h

theorem map (h : FailsOnly P x) (f : β → γ) : FailsOnly P (x.map f) := by
  cases x with
  | ok b => exact ok (f b)
  | error e => exact error (h e rfl)

theorem ite {c : Prop} [Decidable c] {y : Except Fault β} (hx : FailsOnly P x)
    (hy : FailsOnly P y) : FailsOnly P (if c then x else y) := by
  split
  · exact hx
  · exact hy

theorem bind {f : β → Except Fault γ} (hx : FailsOnly P x)
    (hf : ∀ b, x = .ok b → FailsOnly P (f b)) : FailsOnly P (x >>= f) := by
  intro e he
  rcases cases_of_bind_eq_error he with he | ⟨b, hb, he⟩
  · exact hx e he
  · exact hf b hb e he

theorem mapM {f : β → Except Fault γ} {l : List β} (h : ∀ b ∈ l, FailsOnly P (f b)) :
    FailsOnly P (l.mapM f) := by
  induction l with
  | nil => exact ok []
  | cons b l ih =>
    obtain ⟨hb, hl⟩ := List.forall_mem_cons.1 h
    rw [List.mapM_cons]
    exact bind hb fun _ _ ↦ bind (ih hl) fun _ _ ↦ ok _

theorem foldlM {f : γ → β → Except Fault γ} {l : List β} (h : ∀ c, ∀ b ∈ l, FailsOnly P (f c b))
    (c : γ) : FailsOnly P (l.foldlM f c) := by
  induction l generalizing c with
  | nil => exact ok c
  | cons b l ih =>
    rw [List.foldlM_cons]
    exact bind (h c b List.mem_cons_self) fun c' _ ↦
      ih (fun c b hb ↦ h c b (List.mem_cons_of_mem _ hb)) c'

theorem filterM {f : β → Except Fault Bool} {l : List β} (h : ∀ b ∈ l, FailsOnly P (f b)) :
    FailsOnly P (l.filterM f) := by
  intro e he
  rcases filterM_cases f l with ⟨b, hb, e', he', herror⟩ | hok
  · rw [herror] at he
    cases he
    exact h b hb e he'
  · rw [hok] at he
    cases he

/-- A number is only missed when it lies beyond all of them. -/
theorem ofWhole (α : Type) [Scalar α] (n : Int) :
    FailsOnly (· = .value .outOfRange) (Scalar.ofWhole n : Except Fault α) :=
  ite (ok _) (error rfl)

theorem toDouble (q : Quantity) : FailsOnly (· = .value .outOfRange) q.toDouble := by
  cases q with
  | real x => exact ok x
  | flag _ => exact ofWhole Float _
  | whole _ => exact ofWhole Float _

/-- A system is only missed for parameters that denote none. -/
theorem build {C : Type} [ReferenceSystem C] (projection : Fields) (datum : Datum) :
    FailsOnly (∃ params, · = .projection (.invalidParameters params))
      (ReferenceSystem.build projection datum : Except Fault C) := by
  unfold ReferenceSystem.build
  split
  · exact ok _
  · exact error ⟨_, rfl⟩

/-- The parameters of a projection are only missed for a projection that cannot be, or for a value
of the wrong kind. -/
theorem params (hprojection : ∀ cause, P (.projection cause)) (hvalue : ∀ cause, P (.value cause))
    (spec : ProjectionSpec) : FailsOnly P spec.params := by
  have hrequire (name : String) (value : Json) : FailsOnly P (spec.require name value) := by
    unfold ProjectionSpec.require
    split
    · exact error (hprojection _)
    · exact ok _
  have hquantity (value : Json) : FailsOnly P (Quantity.ofJson value) := by
    cases value with
    | bool | int | real => exact ok _
    | null | str | arr | obj => exact error (hvalue _)
  unfold ProjectionSpec.params
  cases spec.kind with
  | plateCarree => exact ok _
  | sinusoidal => exact bind (hrequire _ _) fun _ _ ↦ ok _
  | mercator | transverseMercator | orthographic | stereographic | lambertAzimuthal =>
    exact bind (hrequire _ _) fun _ _ ↦ bind (hrequire _ _) fun _ _ ↦ ok _
  | lambertConformalConic =>
    exact bind (hrequire _ _) fun _ _ ↦ bind (hrequire _ _) fun _ _ ↦
      bind (hrequire _ _) fun _ _ ↦ bind (hrequire _ _) fun _ _ ↦ ok _
  | utm =>
    simp only
    split
    · exact error (hprojection _)
    · refine bind (hquantity _) fun zone _ ↦ ?_
      split
      · exact bind (error (hprojection _)) fun _ _ ↦ ok _
      · exact ok _

end FailsOnly

/-- All failures of an action, in whatever state, are of one kind. -/
def RaisesOnly {σ β : Type} (P : Fault → Prop) (x : EStateM Fault σ β) : Prop :=
  ∀ s e s', x s = .error e s' → P e

namespace RaisesOnly

variable {σ β γ : Type} {P Q : Fault → Prop} {x : EStateM Fault σ β}

theorem pure (b : β) : RaisesOnly P (Pure.pure b : EStateM Fault σ β) := fun _ _ _ h ↦ by cases h

theorem throw {e : Fault} (h : P e) : RaisesOnly P (MonadExcept.throw e : EStateM Fault σ β) := by
  intro s e' s' h'
  cases h'
  exact h

theorem modify (f : σ → σ) : RaisesOnly P (modify f : EStateM Fault σ Unit) :=
  fun _ _ _ h ↦ by cases h

theorem mono (h : RaisesOnly P x) (hPQ : ∀ e, P e → Q e) : RaisesOnly Q x :=
  fun s e s' he ↦ hPQ e (h s e s' he)

theorem bind {f : β → EStateM Fault σ γ} (hx : RaisesOnly P x)
    (hf : ∀ s b s', x s = .ok b s' → RaisesOnly P (f b)) : RaisesOnly P (x >>= f) := by
  intro s e s' he
  rcases Action.cases_of_bind_eq_error he with he | ⟨b, mid, hb, he⟩
  · exact hx s e s' he
  · exact hf s b mid hb mid e s' he

theorem mapM {f : β → EStateM Fault σ γ} {l : List β} (h : ∀ b ∈ l, RaisesOnly P (f b)) :
    RaisesOnly P (l.mapM f) := by
  induction l with
  | nil => exact pure []
  | cons b l ih =>
    obtain ⟨hb, hl⟩ := List.forall_mem_cons.1 h
    rw [List.mapM_cons]
    exact bind hb fun _ _ _ _ ↦ bind (ih hl) fun _ _ _ _ ↦ pure _

theorem foldlM {f : γ → β → EStateM Fault σ γ} {l : List β}
    (h : ∀ c, ∀ b ∈ l, RaisesOnly P (f c b)) (c : γ) : RaisesOnly P (l.foldlM f c) := by
  induction l generalizing c with
  | nil => exact pure c
  | cons b l ih =>
    rw [List.foldlM_cons]
    exact bind (h c b List.mem_cons_self) fun _ c' _ _ ↦
      ih (fun c b hb ↦ h c b (List.mem_cons_of_mem _ hb)) c'

/-- A result taken into a chain of actions. -/
theorem lift {take : Except Fault β → EStateM Fault σ β} {r : Except Fault β}
    (hok : ∀ b, take (.ok b) = Pure.pure b) (herror : ∀ e, take (.error e) = MonadExcept.throw e)
    (h : FailsOnly P r) : RaisesOnly P (take r) := by
  cases r with
  | ok b =>
    rw [hok]
    exact pure b
  | error e =>
    rw [herror]
    exact throw (h e rfl)

theorem logging {r : Except Fault β} (h : FailsOnly P r) : RaisesOnly P (Logging.ofExcept r) :=
  lift (fun _ ↦ rfl) (fun _ ↦ rfl) h

end RaisesOnly

end QuadMosaic
