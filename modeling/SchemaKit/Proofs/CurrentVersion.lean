import Mathlib
import SchemaKit.Proofs.Acceptance
import SchemaKit.Proofs.Drafts
import SchemaKit.Proofs.Session

/-!
# The current version

The current version is the highest one recorded, and zero if there is none (`Ledger.current`).  Zero is
also read off a file name whose digits are all zeros, so it stands for an empty table only where no
such file has been applied: `session_currentVersion` tells all that a current version of zero means.
-/

namespace SchemaKit

/-! ## The highest record -/

namespace Ledger

variable {l : Ledger} {v : Version}

/-- The highest version that is recorded, and zero if there is none. -/
def current (l : Ledger) : Version :=
  l.versions.getLast?.getD 0

theorem current_of_empty (h : l.versions = []) : l.current = 0 := by
  rw [current, h]
  rfl

/-- Where there are records, the current version is the last of them. -/
theorem versions_eq_concat (h : l.versions ≠ []) : ∃ vs, l.versions = vs ++ [l.current] := by
  obtain ⟨v, hv⟩ := Option.ne_none_iff_exists'.mp (mt List.getLast?_eq_none_iff.mp h)
  obtain ⟨vs, hvs⟩ := List.getLast?_eq_some_iff.mp hv
  refine ⟨vs, ?_⟩
  rw [current, hv, Option.getD_some]
  exact hvs

/-- **The current version is the highest.** -/
theorem current_isHighest (h : l.versions ≠ []) :
    l.current ∈ l.versions ∧ ∀ v ∈ l.versions, v ≤ l.current := by
  obtain ⟨vs, hvs⟩ := versions_eq_concat h
  have hasc := l.pairwise_versions
  rw [hvs] at hasc
  have hlower := (List.pairwise_append.mp hasc).2.2
  rw [hvs]
  refine ⟨List.mem_append_right vs (List.mem_singleton_self _), fun v hv => ?_⟩
  rcases List.mem_append.mp hv with hv | hv
  · exact Int64.le_of_lt (hlower v hv _ (List.mem_singleton_self _))
  · rw [List.mem_singleton.mp hv]
    exact Int64.le_refl _

/-- **What zero means**, where no version is below it: there is no record, or the only one is of
version zero. -/
theorem current_eq_zero_iff (hnonneg : ∀ v ∈ l.versions, 0 ≤ v.toInt) :
    l.current = 0 ↔ l.versions = [] ∨ l.versions = [0] := by
  constructor
  · intro hzero
    refine or_iff_not_imp_left.mpr fun hne => ?_
    obtain ⟨vs, hvs⟩ := versions_eq_concat hne
    rw [hzero] at hvs
    have hasc := l.pairwise_versions
    rw [hvs] at hasc hnonneg
    cases vs with
    | nil => exact hvs
    | cons v vs =>
      -- a record in front of the last one would be of a version below zero
      have hbelow : v < 0 := (List.pairwise_append.mp hasc).2.2 v List.mem_cons_self 0
        (List.mem_singleton_self 0)
      have hle := hnonneg v List.mem_cons_self
      rw [Int64.lt_iff_toInt_lt] at hbelow
      exact absurd hle (Int.not_le.mpr hbelow)
  · rintro (h | h)
    · exact current_of_empty h
    · rw [current, h]
      rfl

end Ledger

namespace Migrator

open Job (attempt attempt_bind)

variable (m : Migrator) {folder : Folder} {s : Store}

/-- **What `currentVersion` gives**: the current version of the tracking table, unless one of the two
statements that read it holds a failure marker. -/
theorem attempt_currentVersion (s : Store) :
    attempt m.table s m.currentVersion =
      match s.failure? m.table.createText with
      | some marker => (.error (trackingError (.injected marker)), s)
      | none =>
        match s.failure? m.table.selectText with
        | some marker => (.error (trackingError (.injected marker)), s.opened)
        | none => (.ok s.tracked.ledger.current, s.opened) := by
  unfold currentVersion
  rw [attempt_bind, m.attempt_applied s]
  cases s.failure? m.table.createText with
  | some marker => rfl
  | none =>
    cases s.failure? m.table.selectText with
    | some marker => rfl
    | none =>
      simp only
      rw [Job.attempt_pure, Ledger.current, Ledger.versions, List.getLast?_map]

theorem currentVersion_eq_ok_iff {v : Version} :
    (attempt m.table s m.currentVersion).1 = .ok v ↔ (s.failure? m.table.createText = none ∧
      s.failure? m.table.selectText = none) ∧ v = s.tracked.ledger.current := by
  rw [m.attempt_currentVersion s]
  cases s.failure? m.table.createText with
  | some marker => simp
  | none =>
    cases s.failure? m.table.selectText with
    | some marker => simp
    | none => simp [eq_comm]

theorem versions_currentVersion (s : Store) :
    (attempt m.table s m.currentVersion).2.versions = s.versions := by
  rw [m.attempt_currentVersion s]
  split
  · rfl
  · split <;> rfl

/-! ## Versions along a session -/

/-- Every version that is recorded in a session is that of a file. -/
theorem exists_found_of_mem_versions (calls : List Call) (h : s.tracked.ledger = ∅) {v : Version}
    (hv : v ∈ (m.session folder s calls).2.versions) : ∃ x ∈ m.found folder, x.version = v := by
  have hinitial : (m.session folder s calls).2.tracked.ledger.IsInitial (m.found folder) :=
    m.session_isInitial calls (.of_empty h)
  rw [Store.versions, hinitial.versions_eq, List.mem_map] at hv
  obtain ⟨x, hx, rfl⟩ := hv
  exact ⟨x, (Migration.firsts_sublist _).subset (List.take_subset _ _ hx), rfl⟩

/-- **The current version in a session.**  Whatever a session does, if it starts with an empty
tracking table, then asking for the current version afterwards succeeds exactly if no failure marker
stands in one of the two statements that read the table, and it leaves the records as they are.  It
gives the highest version recorded, and zero if there is none.  Since no recorded version is below
zero, it gives zero exactly if nothing is recorded or version zero alone is; so where no file has
version zero, it gives zero exactly if nothing is recorded. -/
theorem session_currentVersion (folder : Folder) (s : Store) (calls : List Call)
    (h : s.tracked.ledger = ∅) :
    let s' := (m.session folder s calls).2
    let r := attempt m.table s' m.currentVersion
    ((∃ v, r.1 = .ok v) ↔ s'.failure? m.table.createText = none ∧
      s'.failure? m.table.selectText = none) ∧
    r.2.versions = s'.versions ∧
    ∀ v, r.1 = .ok v →
      (s'.versions = [] → v = 0) ∧
      (s'.versions ≠ [] → v ∈ s'.versions ∧ ∀ w ∈ s'.versions, w ≤ v) ∧
      (v = 0 ↔ s'.versions = [] ∨ s'.versions = [0]) ∧
      ((∀ x ∈ m.found folder, x.version ≠ 0) → (v = 0 ↔ s'.versions = [])) := by
  intro s' r
  have hfile : ∀ w ∈ s'.versions, ∃ x ∈ m.found folder, x.version = w := fun w =>
    m.exists_found_of_mem_versions calls h
  have hnonneg : ∀ w ∈ s'.versions, 0 ≤ w.toInt := by
    intro w hw
    obtain ⟨x, hx, rfl⟩ := hfile w hw
    exact m.nonneg_of_mem_found folder hx
  refine ⟨?_, m.versions_currentVersion s', fun v hv => ?_⟩
  · simp only [r, m.currentVersion_eq_ok_iff, exists_and_left, exists_eq, and_true]
  obtain ⟨-, rfl⟩ := m.currentVersion_eq_ok_iff.mp hv
  have hzero := Ledger.current_eq_zero_iff hnonneg
  refine ⟨Ledger.current_of_empty, Ledger.current_isHighest, hzero, fun hpositive => ?_⟩
  rw [hzero]
  refine or_iff_left fun hsingle => ?_
  have hrecorded : 0 ∈ s'.versions := by
    rw [Store.versions, hsingle]
    exact List.mem_singleton_self 0
  obtain ⟨x, hx, hx0⟩ := hfile 0 hrecorded
  exact hpositive x hx hx0

/-- The same of a session in which the second of two migrations fails. -/
theorem session_currentVersion_of_failing_second :
    let m : Migrator := { directory := "migrations" }
    let folder : Folder := .ok
      [(Text.Utf8.encode "2_a.sql".toList, .file (.text "SELECT 1")),
        (Text.Utf8.encode "7_b.sql".toList, .file (.text "SELECT 9"))]
    let s : Store := { clock := ⟨⟨2024, 1, 1⟩, 0, 0, 0, 0⟩, failures := ["9"] }
    let s' := (m.session folder s [.migrate none]).2
    s.tracked.ledger = ∅ ∧ (attempt m.table s' m.currentVersion).1 = .ok 2 ∧
      (∀ w ∈ s'.versions, w ≤ 2) ∧ s'.versions ≠ [] := by
  intro m folder s s'
  have hfound : m.found folder =
      [⟨2, "a", "migrations/2_a.sql", "2_a.sql"⟩, ⟨7, "b", "migrations/7_b.sql", "7_b.sql"⟩] := by
    cbv
  obtain ⟨journal, hr⟩ :=
    m.attempt_migrate_of_canRead folder s none (by decide +kernel) (by decide +kernel)
  rw [hfound] at hr
  generalize hp : Progress.along (m.advance folder s) s.books _ = p at hr
  have hrecorded : p.state.ledger.versions = [2] := by
    rw [← hp]
    decide +kernel
  have hs' : s' = s.holding p.state journal := by
    simp only [s', snd_session_migrate, session_nil, hr]
  have hversions : s'.versions = [2] := by
    rw [hs']
    exact hrecorded
  have hsome : s'.versions ≠ [] := by
    rw [hversions]
    exact List.cons_ne_nil 2 []
  have hunmarked : s'.failure? m.table.createText = none ∧
      s'.failure? m.table.selectText = none := by
    rw [hs']
    change s.failure? m.table.createText = none ∧ s.failure? m.table.selectText = none
    decide +kernel
  have hgiven : (attempt m.table s' m.currentVersion).1 = .ok 2 := by
    refine m.currentVersion_eq_ok_iff.mpr ⟨hunmarked, ?_⟩
    rw [Ledger.current, ← Store.versions, hversions]
    rfl
  have hcurrent := (m.session_currentVersion folder s [.migrate none] rfl).2.2 2 hgiven
  exact ⟨rfl, hgiven, (hcurrent.2.1 hsome).2, hsome⟩

/-- **A file of version zero** is applied, and the current version is the one of an empty table. -/
theorem version_zero_reads_as_none :
    let m : Migrator := { directory := "migrations" }
    let folder : Folder :=
      .ok [(Text.Utf8.encode "000_init.sql".toList, .file (.text "SELECT 1"))]
    let s : Store := { clock := ⟨⟨2024, 1, 1⟩, 0, 0, 0, 0⟩ }
    let s' := (m.session folder s [.migrate none]).2
    s.tracked.ledger = ∅ ∧ FileName.parse? "000_init.sql" = some (0, "init") ∧
      s'.tracked.ledger.entries = [(0, "init")] ∧
      (attempt m.table s' m.currentVersion).1 = .ok 0 := by
  intro m folder s s'
  have hfound : m.found folder = [⟨0, "init", "migrations/000_init.sql", "000_init.sql"⟩] := by
    cbv
  obtain ⟨journal, hr⟩ := m.attempt_migrate_of_canRead folder s none rfl rfl
  have hs' : s' = (attempt m.table s (m.migrate folder none)).2 := by
    simp only [s', snd_session_migrate, session_nil]
  rw [hfound] at hr
  rw [hr] at hs'
  have hversions : s'.tracked.ledger.entries = [(0, "init")] := by
    rw [hs']
    rfl
  refine ⟨rfl, by decide +kernel, hversions, m.currentVersion_eq_ok_iff.mpr ⟨⟨?_, ?_⟩, ?_⟩⟩ <;>
    (rw [hs']; rfl)

end Migrator

end SchemaKit
