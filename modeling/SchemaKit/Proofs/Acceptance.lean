import SchemaKit.Proofs.Migrate
import SchemaKit.Proofs.Rollback

/-!
# What a store accepts

Whether a step of a run succeeds depends on little: on the texts and names it brings, on the failure
markers, and for applying on whether the version is new.  The equations `isOk_advance` and
`isOk_retreat` say so for the steps and `isOk_pending` and `isOk_rollback` for the calls, and a store
without markers accepts all but the two texts that write to the tracking table
(`Store.accepts_script`).
-/

namespace SchemaKit

/-! ## Statements -/

namespace TrackingTable

/-- The texts that write to a table, which no store takes without the values they write. -/
def writes (t : TrackingTable) (sql : String) : Bool :=
  sql = t.insertText || sql = t.deleteText

end TrackingTable

theorem TrackingOp.isOk_ofStatement_script (t : TrackingTable) (sql : String) :
    (TrackingOp.ofStatement t ⟨sql, []⟩).isOk = !t.writes sql := by
  by_cases htext : ∃ p, sql = t.text p
  · obtain ⟨p, rfl⟩ := htext
    have hwrites : t.writes (t.text p) = (p = .record || p = .forget) := by
      show (decide (t.text p = t.text .record) || decide (t.text p = t.text .forget)) = _
      simp only [TrackingTable.text_inj, true_and]
    rw [TrackingOp.ofStatement_text, if_pos rfl, hwrites]
    cases p <;> rfl
  · have hne : ∀ p, sql ≠ t.text p := not_exists.mp htext
    have hwrites : t.writes sql = false := by
      have hrecord : sql ≠ t.insertText := hne .record
      have hforget : sql ≠ t.deleteText := hne .forget
      simp only [TrackingTable.writes, hrecord, hforget, decide_false, Bool.or_self]
    rw [TrackingOp.ofStatement_eq_none_iff.mpr hne, hwrites]
    rfl

namespace Store

variable (t : TrackingTable) (s s' : Store) (q : Statement)

/-- Whether a store takes a statement for what its text and values say. -/
def accepts : Bool :=
  (s.classify t q).isOk

variable {t s s'}

/-- What a store accepts depends on its failure markers alone. -/
theorem accepts_congr (h : s.failures = s'.failures) : s.accepts t q = s'.accepts t q := by
  unfold accepts classify failure?
  rw [h]

theorem failure?_eq_none (h : s.failures = []) (sql : String) : s.failure? sql = none := by
  rw [failure?, h]
  rfl

/-- A statement that is understood is accepted unless its text holds a failure marker. -/
theorem accepts_of_understood {op : Option TrackingOp} (h : TrackingOp.ofStatement t q = .ok op) :
    s.accepts t q = (s.failure? q.sql).isNone := by
  unfold accepts
  cases hf : s.failure? q.sql with
  | some marker =>
    rw [classify_of_marked hf]
    rfl
  | none =>
    rw [classify_of_unmarked hf, h]
    rfl

theorem accepts_of_unmarked (h : s'.failures = []) (hq : s.accepts t q = true) :
    s'.accepts t q = true := by
  unfold accepts at hq ⊢
  rw [classify_of_unmarked (failure?_eq_none h _)]
  cases hf : s.failure? q.sql with
  | some marker =>
    rw [classify_of_marked hf] at hq
    cases hq
  | none =>
    rw [classify_of_unmarked hf] at hq
    exact hq

variable (h : s.failures = [])
include h

theorem accepts_script (sql : String) : s.accepts t ⟨sql, []⟩ = !t.writes sql := by
  unfold accepts
  rw [classify_of_unmarked (failure?_eq_none h _), TrackingOp.isOk_ofStatement_script]

theorem accepts_forget (version : Int64) : s.accepts t (t.forget version) = true := by
  rw [accepts_of_understood _ (TrackingOp.ofStatement_forget t version), failure?_eq_none h]
  rfl

end Store

/-! ## What is done to books -/

namespace Books

variable (t : TrackingTable) (s : Store) (b : Books)

theorem isOk_script (sql : String) : (script t s sql b).isOk = s.accepts t ⟨sql, []⟩ := by
  unfold script Store.accepts
  cases s.classify t ⟨sql, []⟩ <;> rfl

theorem isOk_record (version : Int64) (name : String) :
    (record t s version name b).isOk =
      (s.accepts t (t.record version name) && !b.ledger.contains version) := by
  unfold record Store.accepts
  cases s.classify t (t.record version name) with
  | error e => rfl
  | ok op => cases b.ledger.contains version <;> rfl

theorem isOk_forget (version : Int64) :
    (forget t s version b).isOk = s.accepts t (t.forget version) := by
  unfold forget Store.accepts
  cases s.classify t (t.forget version) <;> rfl

end Books

/-! ## Calls -/

namespace Migrator

open Job (attempt attempt_bind_of_ok attempt_bind_of_error)

variable (m : Migrator) (folder : Folder) (s : Store)

/-! ### Before a run -/

variable (target : Option Version)

/-- Whether the store lets the tracking table be created and read. -/
def canRead : Bool :=
  s.accepts m.table m.table.create && s.accepts m.table m.table.select

theorem canRead_eq :
    m.canRead s = ((s.failure? m.table.createText).isNone &&
      (s.failure? m.table.selectText).isNone) := by
  unfold canRead
  rw [Store.accepts_of_understood _ (TrackingOp.ofStatement_create m.table),
    Store.accepts_of_understood _ (TrackingOp.ofStatement_select m.table)]
  rfl

theorem isOk_applied : (attempt m.table s m.applied).1.isOk = m.canRead s := by
  rw [m.attempt_applied s, canRead_eq]
  cases s.failure? m.table.createText with
  | some marker => rfl
  | none => cases s.failure? m.table.selectText <;> rfl

theorem isOk_discover (t : TrackingTable) :
    (attempt t s (m.discover folder)).1.isOk = folder.isOk := by
  obtain ⟨journal, hd⟩ := m.attempt_discover s folder t
  rw [hd]
  cases folder <;> rfl

theorem isOk_pending :
    (attempt m.table s (m.pending folder target)).1.isOk = (m.canRead s && folder.isOk) := by
  have hread := m.isOk_applied s
  unfold pending appliedVersions
  rcases m.attempt_applied_cases s with ha | ⟨e, s', ha, -, -⟩
  · rw [ha] at hread
    have hversions :=
      attempt_bind_of_ok (f := fun as => pure (as.map Applied.version)) _ _ ha
    rw [attempt_bind_of_ok _ _ hversions, ← hread, ← m.isOk_discover folder s.opened m.table]
    cases hd : attempt m.table s.opened (m.discover folder) with
    | mk r s' =>
      cases r with
      | error e =>
        rw [attempt_bind_of_error _ _ hd]
        rfl
      | ok found =>
        rw [attempt_bind_of_ok _ _ hd]
        rfl
  · rw [ha] at hread
    rw [attempt_bind_of_error _ _ (attempt_bind_of_error _ _ ha), ← hread]
    rfl

variable {s} in
theorem canRead_of_unmarked (h : s.failures = []) : m.canRead s = true := by
  rw [canRead_eq, Store.failure?_eq_none h, Store.failure?_eq_none h]
  rfl

/-- What a call of `migrate` does where the table can be read and the directory listed. -/
theorem attempt_migrate_of_canRead (hread : m.canRead s = true) (hlisted : folder.isOk = true) :
    ∃ journal, attempt m.table s (m.migrate folder target) =
      (appliedOutcome [] (Progress.along (m.advance folder s) s.books
          (notApplied s.versions target (m.found folder))),
        s.holding (Progress.along (m.advance folder s) s.books
          (notApplied s.versions target (m.found folder))).state journal) := by
  rcases m.attempt_migrate folder s target with
    ⟨l, s', journal, -, rfl, hr⟩ | ⟨e, s', s'', hp, -, -, -⟩
  · exact ⟨journal, hr⟩
  · have hok := m.isOk_pending folder s target
    rw [hp, hread, hlisted] at hok
    cases hok

/-- Where the table cannot be read or the directory not listed, a call of `migrate` fails and leaves
the books as they are. -/
theorem attempt_migrate_of_not (h : (m.canRead s && folder.isOk) = false) :
    ∃ e s', attempt m.table s (m.migrate folder target) = (.error e, s') ∧ e.IsEarly ∧
      s'.books = s.books := by
  rcases m.attempt_migrate folder s target with
    ⟨l, s', journal, hp, -, -⟩ | ⟨e, s', s'', -, hr, he, hb⟩
  · have hok := m.isOk_pending folder s target
    rw [hp, h] at hok
    cases hok
  · exact ⟨e, s'', hr, he, hb⟩

/-! ### Steps of a run -/

/-- Whether a migration can be applied where its version is new: its file can be read, and the store
accepts its text, if there is any, and its record. -/
def isApplicable (x : Migration) : Bool :=
  match scriptOf folder x with
  | .error _ => false
  | .ok sql =>
    (sql = "" || s.accepts m.table ⟨sql, []⟩) &&
      s.accepts m.table (m.table.record x.version x.name)

theorem isOk_enter (x : Migration) (sql : String) (b : Books) :
    (m.enter s x sql b).isOk =
      ((sql = "" || s.accepts m.table ⟨sql, []⟩) &&
        (s.accepts m.table (m.table.record x.version x.name) &&
          !b.ledger.contains x.version)) := by
  have hrecord := Books.isOk_record m.table s b x.version x.name
  unfold enter
  by_cases hsql : sql = ""
  · rw [if_pos hsql, hsql]
    exact hrecord
  · rw [if_neg hsql, decide_eq_false hsql, Bool.false_or, ← Books.isOk_script m.table s b sql]
    cases hs : Books.script m.table s sql b with
    | error e => rfl
    | ok b' =>
      -- running a text leaves the records as they are
      obtain rfl := Books.script_eq_ok hs
      exact (Books.isOk_record m.table s _ x.version x.name).trans rfl

/-- **One migration** is applied exactly if it can be and its version is new. -/
theorem isOk_advance (b : Books) (x : Migration) :
    (m.advance folder s b x).isOk =
      (m.isApplicable folder s x && !b.ledger.contains x.version) := by
  unfold advance isApplicable
  cases scriptOf folder x with
  | error why => rfl
  | ok sql =>
    have henter := m.isOk_enter s x sql b
    rw [← Bool.and_assoc] at henter
    refine Eq.trans ?_ henter
    change ((m.enter s x sql b).mapError ApplyFault.store).isOk = _
    cases m.enter s x sql b <;> rfl

/-- **One record** is taken back exactly if the store accepts what is run for it. -/
theorem isOk_retreat (b : Books) (st : Step) :
    (m.retreat s b st).isOk = (s.accepts m.table ⟨st.down, []⟩ &&
      s.accepts m.table (m.table.forget st.migration.version)) := by
  unfold retreat leave
  rw [← Books.isOk_script m.table s b st.down]
  cases Books.script m.table s st.down b with
  | error e => rfl
  | ok b' => exact Books.isOk_forget m.table s b' st.migration.version

/-! ### Taking back -/

/-- Whether a record can be taken back: what takes it back is found, and the store accepts that and
the forgetting of the version. -/
def isRevocable (a : Applied) : Bool :=
  match step folder (m.found folder) a with
  | .error _ => false
  | .ok st => s.accepts m.table ⟨st.down, []⟩ && s.accepts m.table (m.table.forget a.version)

theorem all_isRevocable_of_mapM {as : List Applied} {plan : List Step}
    (h : as.mapM (step folder (m.found folder)) = .ok plan) :
    as.all (m.isRevocable folder s) = plan.all fun st => s.accepts m.table ⟨st.down, []⟩ &&
      s.accepts m.table (m.table.forget st.migration.version) := by
  have hall := forall₂_of_mapM h
  clear h
  induction hall with
  | nil => rfl
  | cons hst _ ih =>
    rw [List.all_cons, List.all_cons, ih]
    congr 1
    unfold isRevocable
    rw [hst, version_of_find? (step_eq_ok hst).2.1]

/-- **A rollback** succeeds exactly if the table can be read, the directory listed, and each of the
records be taken back. -/
theorem isOk_rollback (n : Nat) :
    (attempt m.table s (m.rollback folder n)).1.isOk =
      (m.canRead s && folder.isOk &&
        (s.tracked.ledger.records.reverse.take n).all (m.isRevocable folder s)) := by
  rw [← m.isOk_applied s, ← m.isOk_discover folder s m.table]
  rcases m.attempt_rollback folder s n with
    ⟨e, s', ha, hr, -, -⟩ | ⟨e, s', ha, hd, hr, -, -⟩ | ⟨ha, hd, hr⟩
  · rw [ha, hr]
    rfl
  · rw [ha, hd, hr]
    rfl
  · rw [ha, hd]
    change _ = (s.tracked.ledger.records.reverse.take n).all (m.isRevocable folder s)
    cases hplan : (s.tracked.ledger.records.reverse.take n).mapM (step folder (m.found folder)) with
    | error e =>
      rw [hplan] at hr
      obtain ⟨s', hr, -, -⟩ := hr
      obtain ⟨newer, a, older, has, -, ha⟩ := split_of_mapM_error hplan
      -- planning fails at a record, and that record cannot be taken back
      have hno : m.isRevocable folder s a = false := by
        unfold isRevocable
        rw [ha]
      rw [hr, has, List.all_append, List.all_cons, hno, Bool.false_and, Bool.and_false]
      rfl
    | ok plan =>
      rw [hplan] at hr
      obtain ⟨journal, hr⟩ := hr
      have hstop := Progress.isNone_stop (b := s.books) (l := plan)
        fun b st _ => m.isOk_retreat s b st
      rw [hr, m.all_isRevocable_of_mapM folder s hplan, ← hstop]
      unfold revokedOutcome
      cases (Progress.along (m.retreat s) s.books plan).stop <;> rfl

/-! ### Runs that succeed -/

variable {m folder s}

theorem finished_of_appliedOutcome {p : Progress Migration Books ApplyFault} {l : List Migration}
    (h : appliedOutcome [] p = .ok l) : p.stop = none ∧ p.finished = l := by
  unfold appliedOutcome at h
  cases hs : p.stop with
  | none =>
    rw [hs] at h
    exact ⟨rfl, Except.ok.inj h⟩
  | some stop =>
    rw [hs] at h
    cases h

theorem finished_of_revokedOutcome {p : Progress Step Books StoreError} {as : List Applied}
    (h : revokedOutcome [] p = .ok as) : p.stop = none ∧ p.finished.map Step.record = as := by
  unfold revokedOutcome at h
  cases hs : p.stop with
  | none =>
    rw [hs] at h
    exact ⟨rfl, Except.ok.inj h⟩
  | some stop =>
    rw [hs] at h
    cases h

/-- **A call of `migrate` that succeeds** gives what was pending, and leaves what applying all of it
leaves. -/
theorem migrate_eq_ok {target : Option Version} {l : List Migration}
    (h : (attempt m.table s (m.migrate folder target)).1 = .ok l) :
    folder.isOk = true ∧ l = notApplied s.versions target (m.found folder) ∧
      ∃ b journal, attempt m.table s (m.migrate folder target) = (.ok l, s.holding b journal) ∧
        m.Adds folder s s.books l b := by
  rcases m.attempt_migrate folder s target with
    ⟨pending, s', journal, hp, hpending, hr⟩ | ⟨e, s', s'', -, hr, -, -⟩
  · have hok := m.isOk_pending folder s target
    rw [hp] at hok
    have hlisted : folder.isOk = true := (Bool.and_eq_true_iff.mp hok.symm).2
    rw [hr] at h
    -- a run that has not stopped has finished all that was pending
    obtain ⟨hstop, hfinished⟩ := finished_of_appliedOutcome h
    obtain rfl : pending = l := (Progress.finished_of_not_stopped hstop).symm.trans hfinished
    have hadds : m.Adds folder s s.books _ _ :=
      adds_of_foldlM (Progress.foldlM_finished s.books pending)
    rw [hfinished] at hadds
    exact ⟨hlisted, hpending, _, journal, hr.trans (Prod.ext h rfl), hadds⟩
  · rw [hr] at h
    cases h

/-- **A call of `rollback` that succeeds** gives the last records, newest first, and leaves what
taking all of them back leaves. -/
theorem rollback_eq_ok {n : Nat} {as : List Applied}
    (h : (attempt m.table s (m.rollback folder n)).1 = .ok as) :
    as = s.tracked.ledger.records.reverse.take n ∧
      ∃ plan, as.mapM (step folder (m.found folder)) = .ok plan ∧
        m.Removes s.books as (plan.map Step.down)
          (attempt m.table s (m.rollback folder n)).2.books := by
  rcases m.attempt_rollback folder s n with
    ⟨e, s', -, hr, -, -⟩ | ⟨e, s', -, -, hr, -, -⟩ | ⟨-, -, hr⟩
  · rw [hr] at h
    cases h
  · rw [hr] at h
    cases h
  · cases hplan : (s.tracked.ledger.records.reverse.take n).mapM (step folder (m.found folder)) with
    | error e =>
      rw [hplan] at hr
      obtain ⟨s', hr, -, -⟩ := hr
      rw [hr] at h
      cases h
    | ok plan =>
      rw [hplan] at hr
      obtain ⟨journal, hr⟩ := hr
      rw [hr] at h ⊢
      obtain ⟨hstop, hfinished⟩ := finished_of_revokedOutcome h
      have hremoves := m.removes_of_along (s := s) (b := s.books) hplan
      rw [Progress.finished_of_not_stopped hstop] at hfinished hremoves
      rw [records_of_plan hplan] at hfinished
      subst hfinished
      rw [records_of_plan hplan] at hremoves
      exact ⟨rfl, plan, hplan, hremoves⟩

theorem rollback_of_revocable {n : Nat} (hread : m.canRead s = true) (hlisted : folder.isOk = true)
    (h : (s.tracked.ledger.records.reverse.take n).all (m.isRevocable folder s) = true) :
    (attempt m.table s (m.rollback folder n)).1 =
      .ok (s.tracked.ledger.records.reverse.take n) := by
  have hok := m.isOk_rollback folder s n
  rw [hread, hlisted, h] at hok
  cases hgives : (attempt m.table s (m.rollback folder n)).1 with
  | error e =>
    rw [hgives] at hok
    cases hok
  | ok as =>
    rw [(rollback_eq_ok hgives).1]

/-! ### Stores without markers -/

/-- On a store without failure markers a record can be taken back unless the lower section of the
first file of its version is one of the two texts that write to the tracking table. -/
theorem isRevocable_of_downText {a : Applied} {x : Migration} {down : String} (h : s.failures = [])
    (hx : ((m.found folder).find? fun y => y.version = a.version) = some x)
    (hdown : x.downText (folder.read x.entryName) = .ok down) :
    m.isRevocable folder s a = !m.table.writes down := by
  have hstep : step folder (m.found folder) a = .ok ⟨a, x, down⟩ := step_of_downText hx hdown
  unfold isRevocable
  rw [hstep]
  simp only
  rw [Store.accepts_script h, Store.accepts_forget h, Bool.and_true]

/-- **Taking the last record back**, from a store without failure markers, runs the lower section of
the first file of its version. -/
theorem rollback_last {rs : List Applied} {a : Applied} {x : Migration}
    {down : String} (h : s.failures = [])
    (hlisted : folder.isOk = true) (hrecords : s.tracked.ledger.records = rs ++ [a])
    (hx : ((m.found folder).find? fun y => y.version = a.version) = some x)
    (hdown : x.downText (folder.read x.entryName) = .ok down)
    (hwrites : m.table.writes down = false) :
    (attempt m.table s (m.rollback folder 1)).1 = .ok [a] ∧
      m.Removes s.books [a] [down] (attempt m.table s (m.rollback folder 1)).2.books := by
  have hlast : s.tracked.ledger.records.reverse.take 1 = [a] := by
    rw [hrecords, List.reverse_append]
    rfl
  have hrevocable : m.isRevocable folder s a = true := by
    rw [isRevocable_of_downText h hx hdown, hwrites]
    rfl
  have hgives : (attempt m.table s (m.rollback folder 1)).1 = .ok [a] := by
    rw [← hlast]
    refine rollback_of_revocable (m.canRead_of_unmarked h) hlisted ?_
    rw [hlast, List.all_cons, hrevocable]
    rfl
  obtain ⟨-, plan, hplan, hremoves⟩ := rollback_eq_ok hgives
  rw [List.mapM_cons, step_of_downText hx hdown] at hplan
  obtain rfl : [⟨a, x, down⟩] = plan := Except.ok.inj hplan
  exact ⟨hgives, hremoves⟩

/-! ### Other stores -/

theorem isApplicable_congr {s' : Store} (h : s.failures = s'.failures) (x : Migration) :
    m.isApplicable folder s x = m.isApplicable folder s' x := by
  unfold isApplicable
  simp only [Store.accepts_congr _ h]

/-- Failure markers only make fewer migrations applicable. -/
theorem isApplicable_of_unmarked {s' : Store} (h : s'.failures = []) {x : Migration}
    (hx : m.isApplicable folder s x = true) : m.isApplicable folder s' x = true := by
  unfold isApplicable at hx ⊢
  cases hsql : scriptOf folder x with
  | error why =>
    rw [hsql] at hx
    cases hx
  | ok sql =>
    rw [hsql] at hx
    simp only [Bool.and_eq_true, Bool.or_eq_true, decide_eq_true_eq] at hx ⊢
    obtain ⟨htext, hrecord⟩ := hx
    exact ⟨htext.imp_right (Store.accepts_of_unmarked _ h), Store.accepts_of_unmarked _ h hrecord⟩

end Migrator

end SchemaKit
