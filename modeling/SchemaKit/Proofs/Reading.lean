import SchemaKit.Migration.Migrator
import SchemaKit.Proofs.Books
import SchemaKit.Proofs.Running

/-!
# Reading before a run

Before a migrator changes anything it reads the tracking table and the directory.  The equations
here say what comes of each reading and that the books stay as they are, whatever it is.
-/

namespace SchemaKit

/-- An error that does not come from the middle of a run, so that it carries no versions that are
done and stay done. -/
def MigrationError.IsEarly : MigrationError → Prop
  | .applyFailed .. | .rollbackFailed .. => False
  | _ => True

namespace Migrator

open Job (attempt attempt_bind attempt_bind_of_ok attempt_bind_of_error)

variable (m : Migrator) (s : Store) (folder : Folder) (target : Option Version)

@[simp] theorem attempt_report (t : TrackingTable) (e : Event) :
    attempt t s (report e) = (.ok (), s.report e) := rfl

/-! ## The directory -/

/-- The migrations of a directory, as they are discovered. -/
def found : List Migration :=
  ((candidates folder).filterMap fun name => (m.ofEntry name).toOption).mergeSort
    fun a b => decide (a.version ≤ b.version)

theorem run_readEntries (t : TrackingTable) (names : List EntryName) :
    ∃ journal, (m.readEntries names).run t s =
      (names.filterMap fun name => (m.ofEntry name).toOption, { s with journal }) := by
  induction names generalizing s with
  | nil => exact ⟨s.journal, rfl⟩
  | cons name names ih =>
    unfold readEntries
    cases h : m.ofEntry name with
    | ok x =>
      obtain ⟨journal, hj⟩ := ih s
      refine ⟨journal, ?_⟩
      rw [Job.run_bind, hj, List.filterMap_cons, h]
      rfl
    | error why =>
      obtain ⟨journal, hj⟩ := ih (s.report (.fileSkipped (m.entryPath name) why.message))
      refine ⟨journal, ?_⟩
      rw [List.filterMap_cons, h]
      exact hj

/-- What discovery gives does not depend on the store and changes nothing but what is reported. -/
theorem attempt_discover (t : TrackingTable) :
    ∃ journal, attempt t s (m.discover folder) =
      match folder with
      | .error why => (.error (.file m.directory why), { s with journal })
      | .ok _ => (.ok (m.found folder), { s with journal }) := by
  cases folder with
  | error why => exact ⟨s.journal, rfl⟩
  | ok es =>
    obtain ⟨journal, hj⟩ := m.run_readEntries s t (candidates (.ok es))
    refine ⟨journal, ?_⟩
    unfold discover
    rw [attempt_bind, Job.attempt_lift, hj]
    rfl

theorem eq_found_of_discovered {s : Store} {folder : Folder} {t : TrackingTable}
    {l : List Migration} (h : (attempt t s (m.discover folder)).1 = .ok l) :
    l = m.found folder := by
  obtain ⟨journal, hd⟩ := m.attempt_discover s folder t
  rw [hd] at h
  cases folder with
  | error why => cases h
  | ok es => exact (Except.ok.inj h).symm

theorem version_trans (x y z : Migration) (hxy : decide (x.version ≤ y.version) = true)
    (hyz : decide (y.version ≤ z.version) = true) : decide (x.version ≤ z.version) = true :=
  decide_eq_true (Int64.le_trans (of_decide_eq_true hxy) (of_decide_eq_true hyz))

theorem version_total (x y : Migration) :
    (decide (x.version ≤ y.version) || decide (y.version ≤ x.version)) = true := by
  rw [Bool.or_eq_true, decide_eq_true_eq, decide_eq_true_eq]
  exact Int64.le_total x.version y.version

theorem pairwise_found : (m.found folder).Pairwise fun x y => x.version ≤ y.version :=
  List.Pairwise.imp of_decide_eq_true (List.pairwise_mergeSort version_trans version_total _)

/-! ## The table -/

theorem attempt_ensure :
    attempt m.table s m.ensure =
      match s.failure? m.table.createText with
      | some marker => (.error (trackingError (.injected marker)), s)
      | none => (.ok (), s.opened) := by
  unfold ensure
  rw [attempt_bind, Job.attempt_query, s.execute_create m.table]
  cases s.failure? m.table.createText <;> rfl

theorem mapM_ofRow_toRow (as : List Applied) :
    (as.map Applied.toRow).mapM Applied.ofRow = .ok as := by
  induction as with
  | nil => rfl
  | cons a as ih =>
    rw [List.map_cons, List.mapM_cons, Applied.ofRow_toRow, ih]
    rfl

/-- The applied migrations are the records of the tracking table, unless one of the two statements
that read it holds a failure marker. -/
theorem attempt_applied :
    attempt m.table s m.applied =
      match s.failure? m.table.createText with
      | some marker => (.error (trackingError (.injected marker)), s)
      | none =>
        match s.failure? m.table.selectText with
        | some marker => (.error (trackingError (.injected marker)), s.opened)
        | none => (.ok s.tracked.ledger.records, s.opened) := by
  unfold applied
  rw [attempt_bind, m.attempt_ensure s]
  cases s.failure? m.table.createText with
  | some marker => rfl
  | none =>
    simp only
    rw [attempt_bind, Job.attempt_query, s.execute_select m.table]
    cases s.failure? m.table.selectText with
    | some marker => rfl
    | none =>
      -- rows that were written from records are read back without a fault
      change (((s.tracked.ledger.records.map Applied.toRow).mapM Applied.ofRow).mapError _,
        s.opened) = _
      rw [mapM_ofRow_toRow]
      rfl

/-- It makes no difference to reading the table whether it was there before. -/
theorem attempt_applied_opened (h : s.failure? m.table.createText = none) :
    attempt m.table s.opened m.applied = attempt m.table s m.applied := by
  rw [m.attempt_applied s, m.attempt_applied s.opened]
  rw [show s.opened.failure? m.table.createText = none from h, h]
  rfl

/-- Reading the table gives its records or fails, and the books stay as they are. -/
theorem attempt_applied_cases :
    attempt m.table s m.applied = (.ok s.tracked.ledger.records, s.opened) ∨
      ∃ e s', attempt m.table s m.applied = (.error e, s') ∧ e.IsEarly ∧ s'.books = s.books := by
  rw [m.attempt_applied s]
  cases s.failure? m.table.createText with
  | some marker => exact .inr ⟨_, _, rfl, trivial, rfl⟩
  | none =>
    cases s.failure? m.table.selectText with
    | some marker => exact .inr ⟨_, _, rfl, trivial, rfl⟩
    | none => exact .inl rfl

/-! ## What is pending -/

theorem attempt_pending_opened (h : s.failure? m.table.createText = none) :
    attempt m.table s.opened (m.pending folder target) =
      attempt m.table s (m.pending folder target) := by
  unfold pending appliedVersions
  rw [attempt_bind, attempt_bind, attempt_bind, attempt_bind, m.attempt_applied_opened s h]

/-- **What is pending**: the discovered migrations whose versions are not recorded and not beyond
the target.  Whatever comes of the question, the books stay as they are. -/
theorem attempt_pending :
    (∃ journal, attempt m.table s (m.pending folder target) =
      (.ok (notApplied s.tracked.ledger.versions target (m.found folder)),
        s.holding s.books journal)) ∨
    ∃ e s', attempt m.table s (m.pending folder target) = (.error e, s') ∧ e.IsEarly ∧
      s'.books = s.books := by
  unfold pending appliedVersions
  rcases m.attempt_applied_cases s with ha | ⟨e, s', ha, he, hs'⟩
  · have hv := attempt_bind_of_ok (f := fun as => pure (as.map Applied.version)) _ _ ha
    rw [attempt_bind_of_ok _ _ hv]
    obtain ⟨journal, hd⟩ := m.attempt_discover s.opened folder m.table
    cases folder with
    | error why => exact .inr ⟨_, _, attempt_bind_of_error _ _ hd, trivial, rfl⟩
    | ok es => exact .inl ⟨journal, attempt_bind_of_ok _ _ hd⟩
  · exact .inr ⟨e, s', attempt_bind_of_error _ _ (attempt_bind_of_error _ _ ha), he, hs'⟩

end Migrator

end SchemaKit
