import SchemaKit.Proofs.Session

/-!
# Histories

What a session reports can be read as the history of a stack: a version that is applied is pushed,
and one that is taken back is popped.  `Report.replay` follows the reports and stops at one that
takes back anything but the top.  Read from the bottom, the stack is always what the tracking table
holds (`call_replays`, and for sessions `session_replays`).
-/

namespace SchemaKit

namespace Report

variable {stack : List Version}

/-- What a report does to a stack of versions, the top first.  Only the top can be taken back. -/
def play (stack : List Version) : Report → Option (List Version)
  | applied v => some (v :: stack)
  | revoked v =>
    match stack with
    | [] => none
    | top :: rest => if v = top then some rest else none

/-- What reports do to a stack one after the other. -/
def replay (stack : List Version) (reports : List Report) : Option (List Version) :=
  reports.foldlM play stack

theorem replay_append (reports reports' : List Report) :
    replay stack (reports ++ reports') =
      (replay stack reports).bind fun stack => replay stack reports' :=
  List.foldlM_append

/-- Versions that are applied lie on the stack in reverse. -/
theorem replay_applied (vs : List Version) :
    replay stack (vs.map applied) = some (vs.reverse ++ stack) := by
  induction vs generalizing stack with
  | nil => rfl
  | cons v vs ih =>
    rw [List.reverse_cons, List.append_assoc]
    exact ih

/-- Versions that lie on top of the stack can be taken back in order. -/
theorem replay_revoked (vs : List Version) :
    replay (vs ++ stack) (vs.map revoked) = some stack := by
  induction vs with
  | nil => rfl
  | cons v vs ih =>
    have hplay : play (v :: (vs ++ stack)) (revoked v) = some (vs ++ stack) := if_pos rfl
    unfold replay at ih ⊢
    rw [List.map_cons, List.cons_append, List.foldlM_cons, hplay]
    exact ih

end Report

namespace Migrator

open Report (replay)

variable (m : Migrator) {folder : Folder} {s : Store}

/-- **One call**: its reports lead from the stack of the versions recorded before it to that of the
versions recorded after it. -/
theorem call_replays (c : Call) (h : s.tracked.ledger.IsInitial (m.found folder)) :
    replay s.versions.reverse (m.call folder s c).1 =
      some (m.call folder s c).2.versions.reverse := by
  cases c with
  | migrate target =>
    obtain ⟨finished, hfront, hreport, hadds⟩ := m.migrate_reports folder s target
    have hversions := hadds.versions_eq h (m.pairwise_found folder) hfront
    change replay _ ((reportedApplied _).map Report.applied) = some (Ledger.versions _).reverse
    rw [hreport, Report.replay_applied]
    -- versions are added above those that are recorded, so they go on top of the stack
    rw [← List.reverse_append]
    exact congrArg (fun vs => some (List.reverse vs)) hversions.symm
  | rollback steps =>
    obtain ⟨as, downs, hreport, hremoves⟩ := m.rollback_reports folder s steps
    -- the last records are on top of the stack, in the order in which they are taken back
    have hversions : s.versions.reverse = as.map Applied.version ++ _ := hremoves.reverse_versions
    change replay _ ((reportedRevoked _).map Report.revoked) = some (Ledger.versions _).reverse
    rw [hreport, hversions, Report.replay_revoked]
    rfl
  | failOn marker => rfl
  | clearFailures => rfl
  | wait now => rfl

/-- **A session**: its reports lead from the stack of the versions recorded at its start to that of
the versions recorded at its end. -/
theorem session_replays (calls : List Call) (h : s.tracked.ledger.IsInitial (m.found folder)) :
    replay s.versions.reverse (m.session folder s calls).1 =
      some (m.session folder s calls).2.versions.reverse := by
  induction calls generalizing s with
  | nil => rfl
  | cons c rest ih =>
    rw [session_cons, Report.replay_append, m.call_replays c h]
    exact ih (m.call_isInitial c h)

/-- **Last in, first out.**  Whatever a session does, if it starts with an empty tracking table, then
its reports are a history of a stack: every version reported as taken back is the top, and in the
end the stack, read from the bottom, holds the versions recorded, in ascending order.  A session may
end after any of its calls (`session_append`), so this is how things are after each of them. -/
theorem session_reports_stack (folder : Folder) (s : Store) (calls : List Call)
    (h : s.tracked.ledger = ∅) :
    let r := m.session folder s calls
    replay [] r.1 = some r.2.versions.reverse ∧ r.2.versions.Pairwise (· < ·) := by
  have hstart : s.tracked.ledger.IsInitial (m.found folder) := .of_empty h
  have hempty : s.versions.reverse = [] := by
    rw [Store.versions, h]
    rfl
  refine ⟨?_, Ledger.pairwise_versions _⟩
  rw [← hempty]
  exact m.session_replays calls hstart

/-- The same of two files that share a version: the second one cannot be applied, and what has been
applied is taken back. -/
theorem session_reports_stack_of_shared_version :
    let m : Migrator := { directory := "migrations" }
    let folder : Folder := .ok
      [(Text.Utf8.encode "1_a.sql".toList, .file (.text "-- UP\nSELECT 1\n-- DOWN\nSELECT 0\n")),
        (Text.Utf8.encode "1_b.sql".toList, .file (.text "SELECT 2"))]
    let s : Store := { clock := ⟨⟨2024, 1, 1⟩, 0, 0, 0, 0⟩ }
    let r := m.session folder s [.migrate none, .rollback 1, .migrate (some 0)]
    s.tracked.ledger = ∅ ∧
      replay [] r.1 = some r.2.versions.reverse ∧ r.2.versions.Pairwise (· < ·) :=
  ⟨rfl, session_reports_stack _ _ _ _ rfl⟩

end Migrator

end SchemaKit
