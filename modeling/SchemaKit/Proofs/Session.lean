import SchemaKit.Proofs.InitialSegment

/-!
# Sessions

A session is a list of calls to one migrator over one directory, in any order and with any outcome;
between the calls failure markers are set and cleared and the clock moves.  `Migrator.session` makes
the calls one after the other and keeps what they report.  All along the session the rows of the
tracking table are an initial segment of the directory (`session_isInitial`).
-/

namespace SchemaKit

inductive Call where
  | migrate (target : Option Version)
  | rollback (steps : Nat)
  | failOn (marker : String)
  | clearFailures
  | wait (now : Timestamp)

/-- What a call reports of a version: it has been applied, or taken back. -/
inductive Report where
  | applied (version : Version)
  | revoked (version : Version)

namespace Migrator

open Job (attempt)
open Migration (firsts)

/-- The versions that a call of `migrate` reports as applied, whatever comes of it. -/
def reportedApplied : Except MigrationError (List Migration) → List Version
  | .ok l => l.map Migration.version
  | .error (.applyFailed _ _ applied _) => applied
  | .error _ => []

/-- The versions that a call of `rollback` reports as taken back, whatever comes of it. -/
def reportedRevoked : Except MigrationError (List Applied) → List Version
  | .ok l => l.map Applied.version
  | .error (.rollbackFailed _ _ rolledBack _) => rolledBack
  | .error _ => []

variable (m : Migrator) (folder : Folder)

/-- Makes a call: what it reports, and the store after it. -/
def call (s : Store) : Call → List Report × Store
  | .migrate target =>
    let r := attempt m.table s (m.migrate folder target)
    ((reportedApplied r.1).map .applied, r.2)
  | .rollback steps =>
    let r := attempt m.table s (m.rollback folder steps)
    ((reportedRevoked r.1).map .revoked, r.2)
  | .failOn marker => ([], s.failOn marker)
  | .clearFailures => ([], s.clearFailures)
  | .wait now => ([], { s with clock := now })

/-- Makes calls one after the other: all that they report, and the store at the end. -/
def session (s : Store) : List Call → List Report × Store
  | [] => ([], s)
  | c :: rest =>
    let r := m.call folder s c
    let r' := session r.2 rest
    (r.1 ++ r'.1, r'.2)

variable (s : Store)

@[simp] theorem session_nil : m.session folder s [] = ([], s) := rfl

theorem session_cons (c : Call) (rest : List Call) :
    m.session folder s (c :: rest) =
      ((m.call folder s c).1 ++ (m.session folder (m.call folder s c).2 rest).1,
        (m.session folder (m.call folder s c).2 rest).2) := rfl

theorem snd_session_migrate (target : Option Version) (rest : List Call) :
    (m.session folder s (.migrate target :: rest)).2 =
      (m.session folder (attempt m.table s (m.migrate folder target)).2 rest).2 := rfl

theorem snd_session_clearFailures (rest : List Call) :
    (m.session folder s (.clearFailures :: rest)).2 =
      (m.session folder s.clearFailures rest).2 := rfl

theorem snd_session_wait (now : Timestamp) (rest : List Call) :
    (m.session folder s (.wait now :: rest)).2 =
      (m.session folder { s with clock := now } rest).2 := rfl

/-- A session goes on from where a part of it ends. -/
theorem session_append (before after : List Call) :
    m.session folder s (before ++ after) =
      ((m.session folder s before).1 ++
          (m.session folder (m.session folder s before).2 after).1,
        (m.session folder (m.session folder s before).2 after).2) := by
  induction before generalizing s with
  | nil => rfl
  | cons c rest ih =>
    rw [List.cons_append, session_cons, session_cons, ih, List.append_assoc]

/-! ## What a call leaves behind -/

theorem reportedApplied_outcome (p : Progress Migration Books ApplyFault) :
    reportedApplied (appliedOutcome [] p) = p.finished.map Migration.version := by
  unfold appliedOutcome
  cases p.stop <;> rfl

theorem reportedRevoked_outcome (p : Progress Step Books StoreError) :
    reportedRevoked (revokedOutcome [] p) = (p.finished.map Step.record).map Applied.version := by
  unfold revokedOutcome
  cases p.stop <;> rfl

theorem reportedApplied_early {e : MigrationError} (h : e.IsEarly) :
    reportedApplied (.error e) = [] := by
  cases e <;> first | rfl | cases h

theorem reportedRevoked_early {e : MigrationError} (h : e.IsEarly) :
    reportedRevoked (.error e) = [] := by
  cases e <;> first | rfl | cases h

/-- **Reports of applying are faithful**: the versions reported are those of a part of what is
pending, from the front, and what is left is what applying that part leaves. -/
theorem migrate_reports (target : Option Version) :
    ∃ finished,
      finished <+: notApplied s.tracked.ledger.versions target (m.found folder) ∧
      reportedApplied (attempt m.table s (m.migrate folder target)).1 =
        finished.map Migration.version ∧
      m.Adds folder s s.books finished (attempt m.table s (m.migrate folder target)).2.books := by
  rcases m.attempt_migrate folder s target with
    ⟨l, s', journal, -, rfl, hr⟩ | ⟨e, s', s'', -, hr, he, hb⟩
  · rw [hr]
    exact ⟨_, Progress.finished_isPrefix s.books _, reportedApplied_outcome _,
      adds_of_foldlM (Progress.foldlM_finished s.books _)⟩
  -- a call that fails early has applied nothing
  · rw [hr, hb]
    exact ⟨[], List.nil_prefix, reportedApplied_early he, Adds.nil s.books⟩

/-- **What a call of `rollback` runs**, whatever comes of it: the versions reported are those of the
last records, each taken back by a step that was planned for it, and what is left is what these steps
leave. -/
theorem rollback_steps (n : Nat) :
    ∃ steps : List Step,
      (∀ st ∈ steps, step folder (m.found folder) st.record = .ok st) ∧
      reportedRevoked (attempt m.table s (m.rollback folder n)).1 =
        (steps.map Step.record).map Applied.version ∧
      m.Removes s.books (steps.map Step.record) (steps.map Step.down)
        (attempt m.table s (m.rollback folder n)).2.books := by
  -- whatever fails before the first step is taken leaves nothing to account for
  have hearly : ∀ e s', attempt m.table s (m.rollback folder n) = (.error e, s') → e.IsEarly →
      s'.books = s.books → ∃ steps : List Step,
        (∀ st ∈ steps, step folder (m.found folder) st.record = .ok st) ∧
        reportedRevoked (attempt m.table s (m.rollback folder n)).1 =
          (steps.map Step.record).map Applied.version ∧
        m.Removes s.books (steps.map Step.record) (steps.map Step.down)
          (attempt m.table s (m.rollback folder n)).2.books := by
    intro e s' hr he hb
    rw [hr, hb]
    exact ⟨[], List.forall_mem_nil _, reportedRevoked_early he, Removes.nil s.books⟩
  rcases m.attempt_rollback folder s n with
    ⟨e, s', -, hr, he, hb⟩ | ⟨e, s', -, -, hr, he, hb⟩ | ⟨-, -, hr⟩
  · exact hearly e s' hr he hb
  · exact hearly e s' hr he hb
  · cases hplan : (s.tracked.ledger.records.reverse.take n).mapM (step folder (m.found folder)) with
    | error e =>
      rw [hplan] at hr
      obtain ⟨s', hr, he, hb⟩ := hr
      exact hearly e s' hr he hb
    | ok plan =>
      rw [hplan] at hr
      obtain ⟨journal, hr⟩ := hr
      rw [hr]
      refine ⟨_, fun st hst => ?_, reportedRevoked_outcome _,
        m.removes_of_along (s := s) (b := s.books) hplan⟩
      exact step_of_mem_plan hplan ((Progress.finished_isPrefix s.books plan).subset hst)

/-- **Reports of taking back are faithful**: the versions reported are those of the last records, and
what is left is what taking these back leaves. -/
theorem rollback_reports (n : Nat) :
    ∃ as downs,
      reportedRevoked (attempt m.table s (m.rollback folder n)).1 = as.map Applied.version ∧
      m.Removes s.books as downs (attempt m.table s (m.rollback folder n)).2.books := by
  obtain ⟨steps, -, hreported, hremoves⟩ := m.rollback_steps folder s n
  exact ⟨_, _, hreported, hremoves⟩

/-! ## The rows along a session -/

variable {folder s}

/-- **One call** leads from one initial segment to another. -/
theorem call_isInitial (c : Call) (h : s.tracked.ledger.IsInitial (m.found folder)) :
    (m.call folder s c).2.tracked.ledger.IsInitial (m.found folder) := by
  cases c with
  | migrate target =>
    obtain ⟨finished, hfront, -, hadds⟩ := m.migrate_reports folder s target
    exact (hadds.isInitial h (m.pairwise_found folder) hfront).2
  | rollback steps =>
    obtain ⟨as, downs, -, hremoves⟩ := m.rollback_reports folder s steps
    exact hremoves.isInitial h
  | failOn marker => exact h
  | clearFailures => exact h
  | wait now => exact h

/-- **A session** leads from one initial segment to another. -/
theorem session_isInitial (calls : List Call)
    (h : s.tracked.ledger.IsInitial (m.found folder)) :
    (m.session folder s calls).2.tracked.ledger.IsInitial (m.found folder) := by
  induction calls generalizing s with
  | nil => exact h
  | cons c rest ih => exact ih (m.call_isInitial c h)

theorem found_eq_nil (why : FileError) : m.found (.error why) = [] := by
  simp [found, candidates, Folder.entries]

/-- **Rows are an initial segment.**  Whatever a session does, if it starts with an empty tracking
table, then the rows it leaves are those of the first file of each of the `k` smallest versions in
the directory, for some `k`.  So no discovered version below a recorded one is missing, and the file
that a rollback takes for a record, the first of its version, has the name that is recorded.  If the
directory cannot be listed, there are no rows.  (Since what is found is sorted, its firsts ascend:
`Migration.pairwise_firsts`.) -/
theorem session_rows_initial_segment (folder : Folder) (s : Store) (calls : List Call)
    (h : s.tracked.ledger = ∅) :
    let rows := (m.session folder s calls).2.tracked.ledger.records
    match (attempt m.table s (m.discover folder)).1 with
    | .ok found =>
      (∃ k ≤ (firsts found).length,
        rows.map Applied.entry = ((firsts found).take k).map Migration.entry) ∧
      (∀ x ∈ found, ∀ a ∈ rows, x.version ≤ a.version → x.version ∈ rows.map Applied.version) ∧
      ∀ a ∈ rows, ∃ x, (found.find? fun y => y.version = a.version) = some x ∧
        x.name = a.name ∧ ∀ st, step folder found a = .ok st → st.migration = x
    | .error _ => rows = [] := by
  have hstart : s.tracked.ledger.IsInitial (m.found folder) := .of_empty h
  have hend := m.session_isInitial calls hstart
  obtain ⟨journal, hd⟩ := m.attempt_discover s folder m.table
  rw [hd]
  cases folder with
  | error why =>
    rw [found_eq_nil] at hend
    exact List.map_eq_nil_iff.mp (List.prefix_nil.mp hend)
  | ok es =>
    refine ⟨⟨_, hend.length_le, hend.entries_eq⟩, ?_, ?_⟩
    · intro x hx a ha hxa
      exact hend.version_mem (m.pairwise_found _) hx ha hxa
    · intro a ha
      -- a step looks up the first file of the version, which is the one that was recorded
      obtain ⟨x, hx, hn⟩ := hend.exists_find? ha
      refine ⟨x, hx, hn, fun st hst => ?_⟩
      exact Option.some.inj ((step_eq_ok hst).2.1.symm.trans hx)

/-- The same of a directory where two files share a version, with a session that fails half-way. -/
theorem session_rows_initial_segment_of_shared_version :
    let m : Migrator := { directory := "migrations" }
    let folder : Folder := .ok
      [(Text.Utf8.encode "1_a.sql".toList, .file (.text "SELECT 1")),
        (Text.Utf8.encode "1_b.sql".toList, .file (.text "SELECT 2")),
        (Text.Utf8.encode "2_c.sql".toList, .file (.text "SELECT 3"))]
    let s : Store := { clock := ⟨⟨2024, 1, 1⟩, 0, 0, 0, 0⟩ }
    let rows := (m.session folder s
      [.migrate none, .failOn "3", .migrate none]).2.tracked.ledger.records
    s.tracked.ledger = ∅ ∧
      match (attempt m.table s (m.discover folder)).1 with
      | .ok found =>
        (∃ k ≤ (firsts found).length,
          rows.map Applied.entry = ((firsts found).take k).map Migration.entry) ∧
        (∀ x ∈ found, ∀ a ∈ rows, x.version ≤ a.version → x.version ∈ rows.map Applied.version) ∧
        ∀ a ∈ rows, ∃ x, (found.find? fun y => y.version = a.version) = some x ∧
          x.name = a.name ∧ ∀ st, step folder found a = .ok st → st.migration = x
      | .error _ => rows = [] :=
  ⟨rfl, session_rows_initial_segment _ _ _ _ rfl⟩

end Migrator

end SchemaKit
