import SchemaKit.Proofs.Bookkeeping
import SchemaKit.Store.Run

/-!
# Books

What migrations change in a store is its books: the records of the tracking table and the log.  All
else that decides how a store answers (its failure markers, its canned answers, its clock) stays as
it is, so a run is followed on books alone: `Store.holding` puts them back into a store.
-/

namespace SchemaKit

/-- What a run changes in a store: the records of the tracking table and the log. -/
structure Books where
  ledger : Ledger
  log : List Statement

namespace Store

variable (t : TrackingTable) (s : Store) (b : Books) (journal : List Event)

def books : Books :=
  ⟨s.tracked.ledger, s.executed⟩

/-- A store with other books, with its tracking table there and other events reported. -/
def holding : Store :=
  { s with tracked := ⟨true, b.ledger⟩, executed := b.log, journal }

/-- A store once its tracking table is there. -/
def opened : Store :=
  s.holding s.books s.journal

@[simp] theorem books_holding : (s.holding b journal).books = b := rfl

@[simp] theorem books_opened : s.opened.books = s.books := rfl

@[simp] theorem books_clearFailures : s.clearFailures.books = s.books := rfl

@[simp] theorem books_wait (now : Timestamp) : { s with clock := now }.books = s.books := rfl

/-! ## What the statements of the tracking table are to a store -/

variable {s} {t}

/-- A statement without a failure marker in it is what its text and values say. -/
theorem classify_of_unmarked {q : Statement} (h : s.failure? q.sql = none) :
    s.classify t q = TrackingOp.ofStatement t q := by
  simp only [classify, h]

theorem classify_of_marked {q : Statement} {marker : String}
    (h : s.failure? q.sql = some marker) : s.classify t q = .error (.injected marker) := by
  simp only [classify, h]

/-- **No text forges a record**: what a store takes of a text that binds no values creates or reads
the table, or is only logged. -/
theorem classify_script {sql : String} {op : Option TrackingOp}
    (h : s.classify t ⟨sql, []⟩ = .ok op) :
    (op = some .create ∧ sql = t.createText) ∨ (op = some .select ∧ sql = t.selectText) ∨
      (op = none ∧ sql ≠ t.createText ∧ sql ≠ t.selectText) := by
  cases hf : s.failure? sql with
  | some marker =>
    rw [classify_of_marked hf] at h
    cases h
  | none =>
    rw [classify_of_unmarked hf] at h
    exact TrackingOp.ofStatement_script t h

/-- What a store takes of the statement of a record is that record. -/
theorem classify_record {version : Int64} {name : String} {op : Option TrackingOp}
    (h : s.classify t (t.record version name) = .ok op) :
    s.classify t (t.record version name) = .ok (some (.record version name)) := by
  cases hf : s.failure? (t.record version name).sql with
  | some marker =>
    rw [classify_of_marked hf] at h
    cases h
  | none => rw [classify_of_unmarked hf, TrackingOp.ofStatement_record]

theorem classify_forget {version : Int64} {op : Option TrackingOp}
    (h : s.classify t (t.forget version) = .ok op) :
    s.classify t (t.forget version) = .ok (some (.remove version)) := by
  cases hf : s.failure? (t.forget version).sql with
  | some marker =>
    rw [classify_of_marked hf] at h
    cases h
  | none => rw [classify_of_unmarked hf, TrackingOp.ofStatement_forget]

variable (s) (t)

theorem execute_create :
    s.execute t t.create =
      match s.failure? t.createText with
      | some marker => (.error (.injected marker), s)
      | none => (.ok [], s.opened) := by
  cases h : s.failure? t.createText with
  | some marker => simp only [execute, classify_of_marked (q := t.create) h]
  | none =>
    simp only [execute, classify_of_unmarked (q := t.create) h, TrackingOp.ofStatement_create]
    rfl

/-- Reading a table that is there gives its records and changes nothing. -/
theorem execute_select :
    s.opened.execute t t.select =
      match s.failure? t.selectText with
      | some marker => (.error (.injected marker), s.opened)
      | none => (.ok (s.tracked.ledger.records.map Applied.toRow), s.opened) := by
  cases h : s.failure? t.selectText with
  | some marker => simp only [execute, classify_of_marked (q := t.select) (s := s.opened) h]
  | none =>
    simp only [execute, classify_of_unmarked (q := t.select) (s := s.opened) h,
      TrackingOp.ofStatement_select]
    rfl

end Store

end SchemaKit
