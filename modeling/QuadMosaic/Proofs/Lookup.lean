import QuadMosaic.Proofs.Output

/-!
# Looking up writers

A session looks through the announcements at the first look-up and remembers the table, so all
look-ups until the next refresh go by one table.  Main statement: `Session.lookups_agree`, what the
names, the list and the look-up of one name say, told from the announcements.
-/

namespace QuadMosaic

open Registry

/-- The table that the look-ups of a session go by. -/
def Session.table (s : Session) : Table := s.writers.getD (discover s.announcements)

namespace Task

variable {β : Type} {x : Task β}

/-- The session after an action, whether it fails or not. -/
def after (x : Task β) (s : Session) : Session :=
  match x s with
  | .ok _ s' => s'
  | .error _ s' => s'

theorem table_after (h : Action.Keeps Session.table x) (s : Session) :
    (x.after s).table = s.table := by
  unfold after
  cases hx : x s with
  | ok b s' => exact h.ok s b s' hx
  | error e s' => exact h.error s e s' hx

theorem exists_writers (s : Session) : ∃ s', writers s = .ok s.table s' := by
  rw [writers_eq]
  unfold Session.table
  cases s.writers <;> exact ⟨_, rfl⟩

theorem keepsTable_writers : Action.Keeps Session.table writers where
  ok s table s' h := by
    rw [writers_eq] at h
    split at h
    case h_1 =>
      cases h
      rfl
    case h_2 hnone =>
      cases h
      unfold Session.table
      rw [hnone]
      rfl
  error s e s' h := (raisesOnly_writers s e s' h).elim

theorem keepsTable_ofExcept (x : Except Fault β) : Action.Keeps Session.table (ofExcept x) := by
  cases x with
  | ok b => exact .pure b
  | error e => exact .throw e

theorem keepsTable_logAll (records : List LogRecord) :
    Action.Keeps Session.table (logAll records) where
  ok s u s' h := by
    cases h
    rfl
  error s e s' h := by cases h

theorem exists_writerNames (s : Session) : ∃ s', writerNames s = .ok (names s.table) s' := by
  obtain ⟨s', hs'⟩ := exists_writers s
  exact ⟨s', Action.bind_of_eq_ok hs'⟩

theorem exists_listWriters (s : Session) : ∃ s', listWriters s = .ok (list s.table) s' := by
  obtain ⟨s', hs'⟩ := exists_writers s
  exact ⟨_, Action.bind_of_eq_ok hs'⟩

theorem writer_eq_ok_iff (s : Session) (name : String) (w : TileWriter) :
    (∃ s', writer name s = .ok w s') ↔ get s.table name = .ok w := by
  obtain ⟨s', hs'⟩ := exists_writers s
  have hwriter : writer name s = ofExcept (get s.table name) s' := Action.bind_of_eq_ok hs'
  rw [hwriter]
  constructor
  · rintro ⟨s'', h⟩
    exact (eq_ok_of_ofExcept h).1
  · intro h
    rw [h]
    exact ⟨s', rfl⟩

/-- A writer is only missed for a reason of the configuration. -/
theorem exists_writer_eq_error {s : Session} {name : String}
    (h : ¬ ∃ w s', writer name s = .ok w s') :
    ∃ cause s', writer name s = .error (.config cause) s' := by
  cases hwriter : writer name s with
  | ok w s' => exact absurd ⟨w, s', hwriter⟩ h
  | error e s' =>
    rcases Action.cases_of_bind_eq_error hwriter with hwriters | ⟨table, mid, -, hget⟩
    · exact (raisesOnly_writers s e s' hwriters).elim
    · cases hfound : get table name with
      | ok w =>
        rw [hfound] at hget
        cases hget
      | error e' =>
        rw [hfound] at hget
        cases hget
        obtain ⟨cause, rfl⟩ := exists_of_get_eq_error hfound
        exact ⟨cause, s', rfl⟩

end Task

namespace Session

/-- A look-up of writers. -/
inductive Lookup
  | names
  | list
  | writer (name : String)

/-- The session after a look-up. -/
def next (s : Session) : Lookup → Session
  | .names => Task.writerNames.after s
  | .list => Task.listWriters.after s
  | .writer name => (Task.writer name).after s

theorem table_next (s : Session) (lookup : Lookup) : (s.next lookup).table = s.table := by
  cases lookup with
  | names => exact Task.table_after (.bind Task.keepsTable_writers fun _ ↦ .pure _) s
  | list =>
    exact Task.table_after
      (.bind Task.keepsTable_writers fun _ ↦ .bind (Task.keepsTable_logAll _) fun _ ↦ .pure _) s
  | writer name =>
    exact Task.table_after (.bind Task.keepsTable_writers fun _ ↦ Task.keepsTable_ofExcept _) s

/-- Look-ups go by one table, however many there are. -/
theorem table_foldl_next (s : Session) (lookups : List Lookup) :
    (lookups.foldl next s).table = s.table := by
  induction lookups generalizing s with
  | nil => rfl
  | cons lookup lookups ih => rw [List.foldl_cons, ih, table_next]

/-- After a refresh and any look-ups, all look-ups agree and go by the announcements.

The built-in name gives the built-in writer.  The names are in order, none twice: the built-in one,
and each one announced under which something could be loaded; such a name leads to the last of
these.  The writers are listed, none twice, and a name is listed with a writer exactly when the
look-up of the name gives that writer, which is the one that the factory of the name makes; any
other name fails for a reason of the configuration. -/
theorem lookups_agree (s : Session) (lookups : List Lookup) :
    let announced := s.announcements
    let table := discover announced
    let now := lookups.foldl next { s with writers := none }
    (∃ s', Task.writer "plan" now = .ok TileWriter.plan s') ∧
    (∃ found s', Task.writerNames now = .ok found s' ∧ found.Pairwise (· < ·) ∧
      ∀ name, name ∈ found ↔
        name = "plan" ∨ ∃ a ∈ announced, a.name = name ∧ ∃ factory, a.loading = .ok factory) ∧
    (∀ name factory, table.find? name = some factory ↔
      (name = "plan" ∧ factory = planFactory) ∨
        (name ≠ "plan" ∧ LastLoads announced name factory)) ∧
    ∃ listed s', Task.listWriters now = .ok listed s' ∧ (listed.map (·.1)).Nodup ∧
      (∀ name w, (name, w) ∈ listed ↔ ∃ s', Task.writer name now = .ok w s') ∧
      (∀ name w, (name, w) ∈ listed ↔
        table.find? name = some (.maker (some w.spec) (some w.generate))) ∧
      ∀ name, name ∉ listed.map (·.1) →
        ∃ cause s', Task.writer name now = .error (.config cause) s' := by
  intro announced table now
  have htable : now.table = table := table_foldl_next _ lookups
  have hnodup : (table.map (·.1)).Nodup := nodup_discover announced
  obtain ⟨sₙ, hnames⟩ := Task.exists_writerNames now
  obtain ⟨sₗ, hlist⟩ := Task.exists_listWriters now
  rw [htable] at hnames hlist
  have hlisted (name : String) (w : TileWriter) :
      (name, w) ∈ list table ↔ ∃ s', Task.writer name now = .ok w s' := by
    rw [mem_list_iff hnodup, Task.writer_eq_ok_iff, htable]
  refine ⟨?plan, ⟨_, sₙ, hnames, pairwise_names hnodup, mem_names_discover_iff announced⟩,
    find?_discover_iff announced, _, sₗ, hlist, nodup_list hnodup, hlisted,
    fun name w ↦ (mem_list_iff hnodup).trans get_eq_ok_iff, ?missed⟩
  case plan =>
    rw [Task.writer_eq_ok_iff, htable]
    exact get_discover announced
  case missed =>
    intro name hname
    refine Task.exists_writer_eq_error ?_
    rintro ⟨w, hw⟩
    exact hname (List.mem_map_of_mem ((hlisted name w).2 hw))

end Session

end QuadMosaic
