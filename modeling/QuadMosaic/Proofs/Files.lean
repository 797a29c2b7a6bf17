import QuadMosaic.Proofs.Faults
import QuadMosaic.Session.Files

/-!
# What writing does to files

A text written to a path is found there, and every other file stays as it is.  Directories are made
on the way and none is ever lost, so a path that leads somewhere goes on leading there.  After a
number of documents were written one after the other, each is found at its path unless a later one
went to the same place.

Writing fails for reasons of the file system alone, never in the program's own words.
-/

namespace QuadMosaic

/-- A failure that the program has no words of its own for. -/
def Fault.Foreign (e : Fault) : Prop := e.isOwn = false

/-! ## Resolved paths -/

namespace Path

/-- The components kept so far, the last one first, with one more. -/
def keep (kept : List String) (part : String) : List String :=
  if part = ".." then
    match kept with
    | [] => [".."]
    | ".." :: _ => ".." :: kept
    | _ :: rest => rest
  else part :: kept

theorem resolved_eq (p : Path) : p.resolved = { p with parts := (p.parts.foldl keep []).reverse } :=
  rfl

/-- Components, the last one first, of which only the outermost lead up. -/
def Settled (kept : List String) : Prop :=
  ∃ names n, kept = names ++ List.replicate n ".." ∧ ".." ∉ names

theorem Settled.keep {kept : List String} (h : Settled kept) (part : String) :
    Settled (keep kept part) := by
  obtain ⟨names, n, rfl, hnames⟩ := h
  unfold Path.keep
  split
  case isFalse hpart => exact ⟨part :: names, n, rfl, by simp [Ne.symm hpart, hnames]⟩
  case isTrue =>
    cases names with
    | nil =>
      -- there is nothing to go up from, so the step up is kept
      refine ⟨[], n + 1, ?_, by simp⟩
      cases n <;> rfl
    | cons name names =>
      rw [List.mem_cons, not_or] at hnames
      refine ⟨names, n, ?_, hnames.2⟩
      simp only [List.cons_append]
      split
      case h_1 heq => cases heq
      case h_2 heq => exact absurd (List.cons.inj heq).1.symm hnames.1
      case h_3 heq => exact (List.cons.inj heq).2.symm

theorem settled_foldl {kept : List String} (h : Settled kept) (parts : List String) :
    Settled (parts.foldl Path.keep kept) := by
  induction parts generalizing kept with
  | nil => exact h
  | cons part parts ih => exact ih (h.keep part)

/-- Settled components are all kept. -/
theorem Settled.foldl_reverse {kept : List String} (h : Settled kept) :
    kept.reverse.foldl Path.keep [] = kept := by
  obtain ⟨names, n, rfl, hnames⟩ := h
  have hdots (n : Nat) : (List.replicate n "..").foldl Path.keep [] = List.replicate n ".." := by
    induction n with
    | zero => rfl
    | succ n ih =>
      rw [List.replicate_succ', List.foldl_append, ih, ← List.replicate_succ']
      cases n <;> rfl
  rw [List.reverse_append, List.reverse_replicate, List.foldl_append, hdots]
  induction names with
  | nil => rfl
  | cons name names ih =>
    rw [List.mem_cons, not_or] at hnames
    rw [List.reverse_cons, List.foldl_append, ih hnames.2]
    exact if_neg (Ne.symm hnames.1)

theorem resolved_resolved (p : Path) : p.resolved.resolved = p.resolved := by
  have hsettled : Settled (p.parts.foldl keep []) :=
    settled_foldl ⟨[], 0, rfl, List.not_mem_nil⟩ p.parts
  rw [resolved_eq p.resolved, resolved_eq p, hsettled.foldl_reverse]

theorem resolved_concat (p : Path) {part : String} (h : part ≠ "..") :
    ({ p with parts := p.parts ++ [part] } : Path).resolved =
      { p with parts := p.resolved.parts ++ [part] } := by
  have hkeep (kept : List String) : keep kept part = part :: kept := if_neg h
  rw [resolved_eq, resolved_eq, List.foldl_append, List.foldl_cons, List.foldl_nil, hkeep,
    List.reverse_cons]

end Path

namespace Files

variable {files files' : Files} {path p q : Path} {text : String}

/-! ## What is found at a place -/

theorem contentAt_put {content : FileContent} (hp : p.resolved = p) :
    (files.put p content).contentAt q = if q = p then some content else files.contentAt q := by
  unfold contentAt put
  rw [hp]
  by_cases h : q = p
  · simp [h]
  · rw [List.find?_cons_of_neg (by simpa using Ne.symm h), List.find?_filter, if_neg h]
    congr 2
    funext e
    by_cases he : e.1 = q
    · simp [he, h]
    · simp [he]

/-- A place that something stands in goes on being a directory. -/
theorem holdsDirectory_put {content : FileContent} (hp : p.resolved = p)
    (h : files.holdsDirectory q = true) : (files.put p content).holdsDirectory q = true := by
  unfold holdsDirectory put at *
  rw [hp]
  simp only [Bool.or_eq_true, List.any_eq_true] at h ⊢
  rcases h with h | ⟨e, he, hin⟩
  · exact .inl h
  · by_cases heq : e.1 = p
    · refine .inr ⟨(p, content), List.mem_cons_self, ?_⟩
      rw [← heq]
      exact hin
    · exact .inr ⟨e, List.mem_cons_of_mem _ (List.mem_filter.2 ⟨he, by simpa using heq⟩), hin⟩

/-- Every directory that can be passed through can still be passed through. -/
structure Extends (files files' : Files) : Prop where
  directory : ∀ p, files.holdsDirectory p = true → files'.holdsDirectory p = true
  passable : ∀ p, files.holdsDirectory p = true → files.contentAt p = none →
    files'.contentAt p = none

namespace Extends

theorem refl (files : Files) : files.Extends files := ⟨fun _ h ↦ h, fun _ _ h ↦ h⟩

theorem trans {files'' : Files} (h : files.Extends files') (h' : files'.Extends files'') :
    files.Extends files'' where
  directory p hp := h'.directory p (h.directory p hp)
  passable p hp hnone := h'.passable p (h.directory p hp) (h.passable p hp hnone)

theorem step (h : files.Extends files') {part : String} (hstep : files.step p part = .ok q) :
    files'.step p part = .ok q := by
  unfold Files.step at hstep ⊢
  split at hstep
  · cases hstep
  split at hstep
  · cases hstep
  case isFalse hnone hdirectory =>
    have hdirectory : files.holdsDirectory p = true := by simpa using hdirectory
    rw [h.passable p hdirectory (Option.not_isSome_iff_eq_none.1 hnone),
      h.directory p hdirectory]
    exact hstep

/-- A path that leads somewhere goes on leading there. -/
theorem locate (h : files.Extends files') (hlocate : files.locate path = .ok p) :
    files'.locate path = .ok p := by
  unfold Files.locate at hlocate ⊢
  split at hlocate
  · cases hlocate
  split at hlocate
  · cases hlocate
  case isFalse hnul hlength =>
    rw [if_neg hnul, if_neg hlength]
    generalize ({ path with parts := [] } : Path) = start at hlocate ⊢
    generalize path.parts = parts at hlocate
    induction parts generalizing start with
    | nil => exact hlocate
    | cons part parts ih =>
      rw [List.foldlM_cons] at hlocate ⊢
      obtain ⟨next, hnext, hlocate⟩ := exists_of_bind_eq_ok hlocate
      rw [bind_of_eq_ok (h.step hnext)]
      exact ih next hlocate

end Extends

/-- A path that leads somewhere leads there step by step. -/
theorem foldlM_step_of_locate (h : files.locate path = .ok p) :
    path.parts.foldlM files.step { path with parts := [] } = .ok p := by
  unfold locate at h
  split at h
  · cases h
  split at h
  · cases h
  exact h

theorem eq_resolved_of_step {part : String} (h : files.step p part = .ok q) :
    q = Path.resolved { p with parts := p.parts ++ [part] } := by
  unfold step at h
  split at h
  · cases h
  split at h
  · cases h
  split at h
  · cases h
  · exact (Except.ok.inj h).symm

/-- A path leads to a resolved one. -/
theorem resolved_of_locate (h : files.locate path = .ok p) : p.resolved = p := by
  have hsteps := foldlM_step_of_locate h
  have hstart : Path.resolved { path with parts := [] } = { path with parts := [] } := rfl
  generalize ({ path with parts := [] } : Path) = start at hsteps hstart
  generalize path.parts = parts at hsteps
  induction parts generalizing start with
  | nil =>
    cases hsteps
    exact hstart
  | cons part parts ih =>
    rw [List.foldlM_cons] at hsteps
    obtain ⟨next, hnext, hsteps⟩ := exists_of_bind_eq_ok hsteps
    refine ih next ?_ hsteps
    rw [eq_resolved_of_step hnext, Path.resolved_resolved]

theorem isFile_of_locate (h : files.locate path = .ok p) :
    files.isFile path = (files.contentAt p).isSome := by
  unfold isFile find?
  rw [h]

theorem exists_of_isFile (h : files.isFile path = true) :
    ∃ place, files.locate path = .ok place := by
  unfold isFile find? at h
  split at h
  case h_1 place hplace => exact ⟨place, hplace⟩
  case h_2 => cases h

/-- A path leads to a directory first and then to a file in it. -/
theorem exists_directory_of_locate {front : List String} {part : String}
    (h : files.locate path = .ok p) (hparts : path.parts = front ++ [part]) (hpart : part ≠ "..") :
    ∃ directory : Path, front.foldlM files.step { path with parts := [] } = .ok directory ∧
      p = { directory with parts := directory.resolved.parts ++ [part] } := by
  have hsteps := foldlM_step_of_locate h
  rw [hparts, List.foldlM_append] at hsteps
  obtain ⟨directory, hfront, hsteps⟩ := exists_of_bind_eq_ok hsteps
  rw [List.foldlM_cons] at hsteps
  obtain ⟨place, hlast, hsteps⟩ := exists_of_bind_eq_ok hsteps
  cases hsteps
  exact ⟨directory, hfront, (eq_resolved_of_step hlast).trans (directory.resolved_concat hpart)⟩

/-- Two paths lead to places of the same names in one directory. -/
def Beside (files : Files) (path path' : Path) : Prop :=
  ∃ place place', files.locate path = .ok place ∧ files.locate path' = .ok place' ∧
    place.parent = place'.parent ∧ place.name = path.name ∧ place'.name = path'.name

theorem Beside.locate_ne {path' : Path} (h : files.Beside path path')
    (hne : path.name ≠ path'.name) : files.locate path ≠ files.locate path' := by
  obtain ⟨place, place', hplace, hplace', -, hname, hname'⟩ := h
  intro heq
  obtain rfl : place = place' := Except.ok.inj (hplace.symm.trans (heq.trans hplace'))
  exact hne (hname.symm.trans hname')

/-! ## Making directories and writing texts -/

/-- Nothing but directories was added. -/
structure OnlyDirectories (files files' : Files) : Prop where
  entries : files'.entries = files.entries
  written : files'.written = files.written
  extension : files.Extends files'

namespace OnlyDirectories

theorem refl (files : Files) : files.OnlyDirectories files := ⟨rfl, rfl, .refl files⟩

theorem trans {files'' : Files} (h : files.OnlyDirectories files')
    (h' : files'.OnlyDirectories files'') : files.OnlyDirectories files'' :=
  ⟨h'.entries.trans h.entries, h'.written.trans h.written, h.extension.trans h'.extension⟩

theorem contentAt (h : files.OnlyDirectories files') (p : Path) :
    files'.contentAt p = files.contentAt p := by
  unfold Files.contentAt
  rw [h.entries]

end OnlyDirectories

theorem onlyDirectories_of_enter (h : files.enter path = .ok files') :
    files.OnlyDirectories files' := by
  obtain ⟨p, -, h⟩ := exists_of_bind_eq_ok h
  split at h
  · cases h
  split at h
  · cases h
    exact .refl files
  · cases h
    refine ⟨rfl, rfl, fun q hq ↦ ?_, fun q _ hnone ↦ hnone⟩
    unfold holdsDirectory at hq ⊢
    simp only [Bool.or_eq_true, List.contains_eq_mem, decide_eq_true_eq, List.mem_append] at hq ⊢
    exact hq.imp_left fun h ↦ h.imp_right .inl

theorem onlyDirectories_of_ancestors {ancestors : List Path}
    (h : ancestors.foldlM (fun files ancestor ↦
      match Files.enter files ancestor with
      | .error (.file .alreadyThere) => Except.error (Fault.file .notADirectory)
      | entered => entered) files = .ok files') : files.OnlyDirectories files' := by
  induction ancestors generalizing files with
  | nil =>
    cases h
    exact .refl _
  | cons ancestor ancestors ih =>
    rw [List.foldlM_cons] at h
    obtain ⟨next, hnext, h⟩ := exists_of_bind_eq_ok h
    have hentered : files.enter ancestor = .ok next := by
      split at hnext
      · cases hnext
      · exact hnext
    exact (onlyDirectories_of_enter hentered).trans (ih h)

theorem onlyDirectories_of_makeDirectory (h : files.makeDirectory path = .ok files') :
    files.OnlyDirectories files' := by
  obtain ⟨mid, hancestors, h⟩ := exists_of_bind_eq_ok h
  exact (onlyDirectories_of_ancestors hancestors).trans (onlyDirectories_of_enter h)

/-- All that writing a text does: it stands where the path leads, and nothing else is changed. -/
theorem exists_of_write (h : files.write path text = .ok files') :
    ∃ p, files'.locate path = .ok p ∧ files.Extends files' ∧
      (∀ q, files'.contentAt q = if q = p then some (.text text) else files.contentAt q) ∧
      ∀ q, q ∈ files'.written ↔ q ∈ files.written ∨ q = p := by
  obtain ⟨mid, hmake, h⟩ := exists_of_bind_eq_ok h
  have hmid := onlyDirectories_of_makeDirectory hmake
  obtain ⟨p, hlocate, h⟩ := exists_of_bind_eq_ok h
  have hp := resolved_of_locate hlocate
  cases hdirectory : mid.holdsDirectory p with
  | true =>
    rw [hdirectory] at h
    cases h
  | false =>
    rw [hdirectory] at h
    cases h
    have hput (written : List Path) : mid.Extends { mid.put p (.text text) with written } := by
      refine ⟨fun q ↦ holdsDirectory_put hp, fun q hq hnone ↦ ?_⟩
      have hne : q ≠ p := by
        rintro rfl
        exact absurd (hq.symm.trans hdirectory) (by decide)
      exact (contentAt_put hp).trans (by rw [if_neg hne, hnone])
    refine ⟨p, (hput _).locate hlocate, hmid.extension.trans (hput _), fun q ↦ ?_, fun q ↦ ?_⟩
    · exact (contentAt_put hp).trans (by rw [hmid.contentAt])
    · rw [← hmid.written]
      change q ∈ (if mid.written.contains p then mid.written else mid.written ++ [p]) ↔ _
      split
      case isTrue hcontains =>
        have hmem : p ∈ mid.written := by simpa using hcontains
        exact ⟨.inl, fun hq ↦ hq.elim id fun heq ↦ heq ▸ hmem⟩
      case isFalse => rw [List.mem_append, List.mem_singleton]

/-! ## Documents one after the other -/

/-- Documents, each a path and a text, written one after the other. -/
def writeAll (files : Files) (documents : List (Path × String)) : Except Fault Files :=
  documents.foldlM (fun files d ↦ files.write d.1 d.2) files

theorem writeAll_append {mid : Files} {earlier later : List (Path × String)}
    (h : files.writeAll earlier = .ok mid) (h' : mid.writeAll later = .ok files') :
    files.writeAll (earlier ++ later) = .ok files' := by
  unfold writeAll at *
  rw [List.foldlM_append, bind_of_eq_ok h]
  exact h'

theorem writeAll_singleton : files.writeAll [(path, text)] = files.write path text :=
  bind_pure _

/-- What has become of the files by writing documents. -/
structure Wrote (files : Files) (documents : List (Path × String)) (files' : Files) : Prop where
  extension : files.Extends files'
  /-- There is a file at the path of each document. -/
  found : ∀ d ∈ documents, files'.isFile d.1 = true
  /-- It is the document, unless a later one went to the same place. -/
  reads : ∀ earlier d later, documents = earlier ++ d :: later →
    (∀ d' ∈ later, files'.locate d'.1 ≠ files'.locate d.1) → files'.readText d.1 = .ok d.2
  /-- Any other file is what it was. -/
  kept : ∀ q, (∀ d ∈ documents, files'.locate d.1 ≠ .ok q) → files'.contentAt q = files.contentAt q
  /-- The files written are those of the documents, and those written before. -/
  written : ∀ q, q ∈ files'.written ↔
    q ∈ files.written ∨ ∃ d ∈ documents, files'.locate d.1 = .ok q

/-- All that writing documents does. -/
theorem wrote_of_writeAll {files files' : Files} {documents : List (Path × String)}
    (h : files.writeAll documents = .ok files') : files.Wrote documents files' := by
  induction documents generalizing files with
  | nil =>
    cases h
    exact {
      extension := .refl _
      found := fun _ hd ↦ absurd hd List.not_mem_nil
      reads := fun earlier d later heq ↦ absurd heq.symm (by simp)
      kept := fun _ _ ↦ rfl
      written := by simp }
  | cons d rest ih =>
    unfold writeAll at h
    rw [List.foldlM_cons] at h
    obtain ⟨mid, hwrite, h⟩ := exists_of_bind_eq_ok h
    obtain ⟨p, hlocate, hextends, hcontent, hwritten⟩ := exists_of_write hwrite
    have hrest : mid.Wrote rest files' := ih h
    have hlocate := hrest.extension.locate hlocate
    constructor
    case extension => exact hextends.trans hrest.extension
    case found =>
      refine List.forall_mem_cons.2 ⟨?_, hrest.found⟩
      rw [isFile_of_locate hlocate]
      by_cases hlater : ∃ d' ∈ rest, files'.locate d'.1 = .ok p
      · obtain ⟨d', hd', hsame⟩ := hlater
        rw [← isFile_of_locate hsame]
        exact hrest.found d' hd'
      · rw [hrest.kept p fun d' hd' hsame ↦ hlater ⟨d', hd', hsame⟩, hcontent, if_pos rfl]
        rfl
    case reads =>
      intro earlier d' later heq hlater
      cases earlier with
      | cons first earlier => exact hrest.reads earlier d' later (List.cons.inj heq).2 hlater
      | nil =>
        obtain ⟨rfl, rfl⟩ := List.cons.inj heq
        have hstays := hrest.kept p fun d' hd' hsame ↦ hlater d' hd' (hsame.trans hlocate.symm)
        rw [hcontent, if_pos rfl] at hstays
        unfold readText
        rw [bind_of_eq_ok hlocate, hstays]
        rfl
    case kept =>
      intro q hq
      obtain ⟨hne, hq⟩ := List.forall_mem_cons.1 hq
      have hqp : q ≠ p := by
        rintro rfl
        exact hne hlocate
      rw [hrest.kept q hq, hcontent, if_neg hqp]
    case written =>
      intro q
      simp only [hrest.written, hwritten, List.mem_cons, exists_eq_or_imp, hlocate,
        Except.ok.injEq, or_assoc, eq_comm (a := p)]

/-- Two documents that went to different places are both there. -/
theorem Wrote.readText_pair {files files' : Files} {path path' : Path} {text text' : String}
    (h : files.Wrote [(path, text), (path', text')] files')
    (hne : files'.locate path ≠ files'.locate path') :
    files'.readText path = .ok text ∧ files'.readText path' = .ok text' := by
  constructor
  · refine h.reads [] (path, text) [(path', text')] rfl fun d hd ↦ ?_
    rw [List.mem_singleton.1 hd]
    exact hne.symm
  · exact h.reads [(path, text)] (path', text') [] rfl nofun

/-! ## Failures of the file system -/

theorem foreign_locate (files : Files) (path : Path) :
    FailsOnly Fault.Foreign (files.locate path) := by
  refine .ite (.error rfl) (.ite (.error rfl) (.foldlM (fun p part _ ↦ ?_) _))
  exact .ite (.error rfl) (.ite (.error rfl) (.ite (.error rfl) (.ok _)))

theorem foreign_enter (files : Files) (path : Path) :
    FailsOnly Fault.Foreign (files.enter path) :=
  .bind (files.foreign_locate path) fun _ _ ↦ .ite (.error rfl) (.ite (.ok _) (.ok _))

theorem foreign_write (files : Files) (path : Path) (text : String) :
    FailsOnly Fault.Foreign (files.write path text) := by
  refine .bind (.bind (.foldlM (fun files ancestor _ ↦ ?_) _) fun files _ ↦
    files.foreign_enter _) fun files _ ↦ .bind (files.foreign_locate _) fun p _ ↦ ?_
  · split
    · exact .error rfl
    · exact files.foreign_enter ancestor
  · cases files.holdsDirectory p with
    | true => exact .bind (.error rfl) fun _ _ ↦ .ok _
    | false => exact .ok _

end Files

end QuadMosaic
