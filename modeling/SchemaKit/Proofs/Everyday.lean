import SchemaKit.Database
import SchemaKit.Proofs.Books
import SchemaKit.Proofs.Built
import SchemaKit.Proofs.Transaction
import SchemaKit.Proofs.Turns

/-!
# Everyday calls

An everyday call builds statements and runs them, many of them in one transaction.  What is built is
none of the tracking table's, so each statement is either refused for a failure marker or logged, and
there are three ways for a call to end (`Database.Ends`): nothing can be built, or the first marker
refuses it, and then the store is as it was, or all of its statements are logged.
-/

namespace SchemaKit

/-! ## Calls -/

/-- An everyday call that builds its statements. -/
inductive Request where
  | insert (table : String) (row : Row)
  | insertBatch (q : Insert) (rows : List Row)
  | insertRecords (table : String) (type : RecordType) (records : List (String → Value))
  | select (q : Select)
  | createIndex (q : Index)
  | createHypertable (q : Hypertable)
  | enableCompression (q : Compression)
  | addPolicy (p : Policy) (schema table interval : String)

/-- What a call gives: nothing but that it is done, a number of rows, or rows. -/
inductive Answer where
  | done
  | count (n : Nat)
  | rows (rows : List Row)

namespace Request

def attempt (db : Database) : Request → Database.Attempt Answer
  | insert table row => do
    Database.insert table row
    return .done
  | insertBatch q rows => return .count (← db.insertBatch q rows)
  | insertRecords table type records => return .count (← db.insertRecords table type records)
  | select q => return .rows (← Database.select q)
  | createIndex q => do
    Database.createIndex q
    return .done
  | createHypertable q => do
    Database.createHypertable q
    return .done
  | enableCompression q => do
    Database.enableCompression q
    return .done
  | addPolicy p schema table interval => do
    Database.addPolicy p schema table interval
    return .done

/-- The statements that the builder of a batch yields, of which there are none for no rows. -/
def pieces (db : Database) (q : Insert) (rows : List Row) : Except BuildError (List Statement) :=
  if rows.isEmpty then .ok [] else q.buildChunks rows db.batchSize

/-- The statements that the builder of a call yields. -/
def statements (db : Database) : Request → Except BuildError (List Statement)
  | insert table row => (Insert.build { table, columns := row.columns } row).map fun q => [q]
  | insertBatch q rows => pieces db q rows
  | insertRecords table type records =>
    pieces db { table, columns := type.columns } (records.map type.toRow)
  | select q => q.build.map fun q => [q]
  | createIndex q => q.build.map fun q => [q]
  | createHypertable q => q.build.map fun q => [q]
  | enableCompression q => q.build.map fun q => [q]
  | addPolicy p schema table interval => (p.build schema table interval).map fun q => [q]

/-- What a call gives if it succeeds. -/
def answer (s : Store) : Request → Answer
  | insertBatch _ rows => .count rows.length
  | insertRecords _ _ records => .count records.length
  | select q => .rows (s.response q.text)
  | _ => .done

end Request

/-! ## Running statements -/

/-- The first failure marker that stands in one of some statements. -/
def Store.refusal? (s : Store) (qs : List Statement) : Option String :=
  qs.findSome? fun q => s.failure? q.sql

namespace Database

open Job (attempt)

variable {t : TrackingTable} {s : Store} {q : Statement} {qs : List Statement} {α β : Type}

/-- How a call ends that yields statements and gives an answer: it is refused before it has begun, or
for a failure marker, and then only what has been reported is new, or all of the statements are
logged. -/
def Ends (s : Store) (yielded : Except BuildError (List Statement)) (a : α)
    (r : Except DatabaseError α × Store) : Prop :=
  match yielded with
  | .error e => r = (.error (.build e), s)
  | .ok qs => ∃ journal, r =
    match s.refusal? qs with
    | some marker => (.error (.execute (.injected marker)), { s with journal })
    | none => (.ok a, { s with executed := s.executed ++ qs, journal })

section Ends

variable {yielded : Except BuildError (List Statement)} {a : α} {s' : Store}

/-- A call that fails leaves no trace in the log and the tracking table. -/
theorem Ends.of_error {e : DatabaseError} (h : Ends s yielded a (.error e, s')) :
    ((∃ why, e = .build why) ∨ ∃ why, e = .execute why) ∧
      s'.executed = s.executed ∧ s'.tracked = s.tracked := by
  cases yielded with
  | error why =>
    cases h
    exact ⟨.inl ⟨why, rfl⟩, rfl, rfl⟩
  | ok qs =>
    obtain ⟨journal, h⟩ := h
    split at h
    · cases h
      exact ⟨.inr ⟨_, rfl⟩, rfl, rfl⟩
    · cases h

theorem Ends.of_ok {b : α} (h : Ends s yielded a (.ok b, s')) :
    b = a ∧ ∃ qs, yielded = .ok qs ∧ (∀ q ∈ qs, s.failure? q.sql = none) ∧
      s'.executed = s.executed ++ qs ∧ s'.tracked = s.tracked := by
  cases yielded with
  | error why => cases h
  | ok qs =>
    obtain ⟨journal, h⟩ := h
    split at h
    · cases h
    · rename_i hnone
      cases h
      exact ⟨rfl, qs, rfl, List.findSome?_eq_none_iff.mp hnone, rfl, rfl⟩

/-- A call succeeds if no failure marker stands in its statements. -/
theorem Ends.eq_ok {r : Except DatabaseError α × Store} (h : Ends s (.ok qs) a r)
    (hnone : ∀ q ∈ qs, s.failure? q.sql = none) : r.1 = .ok a := by
  obtain ⟨journal, h⟩ := h
  rw [Store.refusal?, List.findSome?_eq_none_iff.mpr hnone] at h
  rw [h]

/-- What only reports does not change how a call ends. -/
theorem Ends.bind {b : β} {j : Attempt α} {f : α → Attempt β}
    (h : Ends s yielded a (attempt t s j))
    (hf : ∀ s, ∃ journal, attempt t s (f a) = (.ok b, { s with journal })) :
    Ends s yielded b (attempt t s (j >>= f)) := by
  cases yielded with
  | error e => exact Job.attempt_bind_of_error t s h
  | ok qs =>
    obtain ⟨journal, h⟩ := h
    simp only [Ends]
    cases hr : s.refusal? qs with
    | some marker =>
      rw [hr] at h
      exact ⟨journal, Job.attempt_bind_of_error t s h⟩
    | none =>
      rw [hr] at h
      obtain ⟨journal', hf⟩ := hf { s with executed := s.executed ++ qs, journal }
      exact ⟨journal', (Job.attempt_bind_of_ok t s h).trans hf⟩

theorem Ends.map {j : Attempt α} (h : Ends s yielded a (attempt t s j)) (f : α → β) :
    Ends s yielded (f a) (attempt t s (j >>= fun a => pure (f a))) :=
  h.bind fun s => ⟨s.journal, rfl⟩

end Ends

/-- What cannot be built never reaches the store. -/
theorem ends_built {built? : Except BuildError Statement} {a : α} {f : Statement → Attempt α}
    (h : ∀ q, built? = .ok q → Ends s (.ok [q]) a (attempt t s (f q))) :
    Ends s (built?.map fun q => [q]) a (attempt t s (built built? >>= f)) := by
  cases built? with
  | error e => rfl
  | ok q => exact h q rfl

theorem ends_execute (h : q.Built) :
    Ends s (.ok [q]) (s.response q.sql) (attempt t s (execute q)) := by
  rw [execute, Job.attempt_query, Ends, Store.refusal?, List.findSome?_cons]
  cases hf : s.failure? q.sql with
  | some marker =>
    rw [Store.execute_of_refused (Store.classify_of_marked hf)]
    exact ⟨s.journal, rfl⟩
  | none =>
    have hother := (Store.classify_of_unmarked hf).trans (TrackingOp.ofStatement_of_built t h)
    rw [Store.execute_of_other hother]
    exact ⟨_, rfl⟩

/-- **One statement** is refused, or it is logged. -/
theorem ends_run (h : q.Built) : Ends s (.ok [q]) (s.response q.sql) (attempt t s (run q)) :=
  ends_execute (s := s.report (.running q.sql)) h

theorem ends_perform {built? : Except BuildError Statement} (h : ∀ q, built? = .ok q → q.Built) :
    Ends s (built?.map fun q => [q]) () (attempt t s (perform built?)) :=
  ends_built fun q hq => (ends_run (h q hq)).map fun _ => ()

/-- **Statements in a transaction** are run up to the first that is refused. -/
theorem attempt_executeAll (tx : Transaction) (s : Store) (h : ∀ q ∈ qs, q.Built) :
    match s.refusal? qs with
    | some marker => (Work.attempt tx s (executeAll qs)).1 = .error (.injected marker)
    | none => ∃ s', Work.attempt tx s (executeAll qs) =
      (.ok (), { tx with statements := tx.statements ++ qs }, s') := by
  -- those before are in the transaction, and buffering one refuses none of those behind it
  induction qs generalizing tx s with
  | nil => exact ⟨s, by rw [executeAll, Work.attempt_pure, List.append_nil]⟩
  | cons q rest ih =>
    rw [List.forall_mem_cons] at h
    rw [executeAll, Work.attempt_bind, Work.attempt_query, Store.refusal?, List.findSome?_cons]
    cases hf : s.failure? q.sql with
    | some marker => rw [Transaction.execute_of_refused (Store.classify_of_marked hf)]
    | none =>
      have hother := (Store.classify_of_unmarked hf).trans
        (TrackingOp.ofStatement_of_built tx.table h.1)
      rw [Transaction.execute_of_other hother]
      have hrest := ih { tx with statements := tx.statements ++ [q] }
        (s.report (.buffering q.sql)) h.2
      rw [List.append_assoc] at hrest
      exact hrest

/-- **Statements in a transaction of their own** are all logged, or none is. -/
theorem ends_executeAll (h : ∀ q ∈ qs, q.Built) :
    Ends s (.ok qs) () (attempt t s (Job.transaction .execute (executeAll qs))) := by
  obtain ⟨journal, htransact⟩ := Work.transact_eq t s (executeAll qs).run
  have hall := attempt_executeAll (.start t s) s h
  unfold Work.attempt at hall
  rw [Job.attempt_transaction, htransact, Ends]
  cases hr : s.refusal? qs with
  | some marker =>
    rw [hr] at hall
    rcases hrun : (executeAll qs).run.run (.start t s) s with ⟨_ | _, tx, s'⟩
    · rw [hrun] at hall
      obtain rfl := Except.error.inj hall
      exact ⟨journal, rfl⟩
    · rw [hrun] at hall
      cases hall
  | none =>
    rw [hr] at hall
    obtain ⟨s', hrun⟩ := hall
    rw [hrun]
    exact ⟨journal, rfl⟩

theorem ends_insertBatch (db : Database) (insert : Insert) (rows : List Row) :
    Ends s (Request.pieces db insert rows) rows.length
      (attempt t s (db.insertBatch insert rows)) := by
  cases rows with
  | nil => exact ⟨s.journal, by simp [insertBatch, Store.refusal?]⟩
  | cons row rest =>
    have hpieces : Request.pieces db insert (row :: rest) =
      insert.buildChunks (row :: rest) db.batchSize := rfl
    rw [hpieces]
    cases hqs : insert.buildChunks (row :: rest) db.batchSize with
    | error e =>
      rw [insertBatch, hqs]
      rfl
    | ok qs =>
      have hbuilt : ∀ q ∈ qs, q.Built := fun q hq => by
        obtain ⟨rows, h⟩ := Insert.exists_batch_of_mem hqs hq
        exact .insertBatch h
      rw [insertBatch, hqs]
      exact (ends_executeAll hbuilt).bind fun s =>
        ⟨s.journal ++ [.inserted (row :: rest).length qs.length], rfl⟩

end Database

/-! ## All or nothing -/

namespace Request

open Database

theorem ends_done {built? : Except BuildError Statement} {t : TrackingTable} {s : Store}
    (h : ∀ q, built? = .ok q → q.Built) :
    Ends s (built?.map fun q => [q]) Answer.done (Job.attempt t s (do
      perform built?
      return .done)) :=
  (ends_perform h).map fun _ => Answer.done

/-- **How a call ends.** -/
theorem ends (db : Database) (t : TrackingTable) (s : Store) (r : Request) :
    Ends s (r.statements db) (r.answer s) (Job.attempt t s (r.attempt db)) := by
  cases r with
  | insert table row =>
    exact ends_done fun q hq => .insert hq
  | insertBatch q rows => exact (ends_insertBatch db q rows).map Answer.count
  | insertRecords table type records =>
    have h := (ends_insertBatch (t := t) (s := s) db { table, columns := type.columns }
      (records.map type.toRow)).map Answer.count
    rw [List.length_map] at h
    exact h
  | select q =>
    have h : Ends s (q.build.map fun q => [q]) (s.response q.text)
        (Job.attempt t s (Database.select q)) := ends_built fun q' hq => by
      have hrun := ends_run (t := t) (s := s) (.select hq)
      obtain ⟨-, -, rfl⟩ := Select.of_build hq
      exact hrun
    exact h.map Answer.rows
  | createIndex q => exact ends_done fun q hq => .index hq
  | createHypertable q => exact ends_done fun q hq => .hypertable hq
  | enableCompression q => exact ends_done fun q hq => .compression hq
  | addPolicy p schema table interval =>
    exact ends_done fun q hq => .policy hq

/-- **Everyday calls are all or nothing.**  A call that fails leaves the log and the tracking table of
the store exactly as they were.  A call that succeeds gives its answer, a batch the number of its
rows, and has added to the log what its builder yields, in order and nothing else.  It succeeds
exactly if its builder yields statements and no failure marker stands in one of them.  Made turn by
turn it comes to the same end, and no transaction is open then. -/
theorem all_or_nothing (db : Database) (t : TrackingTable) (s : Store) (r : Request) :
    let result := (Job.attempt t s (r.attempt db)).1
    let s' := (Job.attempt t s (r.attempt db)).2
    (∀ e, result = .error e → ((∃ why, e = .build why) ∨ ∃ why, e = .execute why) ∧
      s'.executed = s.executed ∧ s'.tracked = s.tracked) ∧
    (∀ a, result = .ok a → a = r.answer s ∧
      (∃ qs, r.statements db = .ok qs ∧ s'.executed = s.executed ++ qs) ∧
      s'.tracked = s.tracked) ∧
    ((∃ a, result = .ok a) ↔
      ∃ qs, r.statements db = .ok qs ∧ ∀ q ∈ qs, s.failure? q.sql = none) ∧
    ∃ turns, (Crowd.alone t s (r.attempt db).run turns).callers () = .outside (.done result) ∧
      (Crowd.alone t s (r.attempt db).run turns).store = s' ∧
      (Crowd.alone t s (r.attempt db).run turns).holder = none := by
  intro result s'
  have hends : Ends s (r.statements db) (r.answer s) (result, s') := r.ends db t s
  refine ⟨fun e he => ?_, fun a ha => ?_, ⟨fun ⟨a, ha⟩ => ?_, fun ⟨qs, hqs, hnone⟩ => ?_⟩,
    Crowd.exists_alone t s (r.attempt db).run⟩
  · rw [he] at hends
    exact hends.of_error
  · rw [ha] at hends
    obtain ⟨hanswer, qs, hqs, -, hexecuted, htracked⟩ := hends.of_ok
    exact ⟨hanswer, ⟨qs, hqs, hexecuted⟩, htracked⟩
  · rw [ha] at hends
    obtain ⟨-, qs, hqs, hnone, -⟩ := hends.of_ok
    exact ⟨qs, hqs, hnone⟩
  · rw [hqs] at hends
    exact ⟨_, hends.eq_ok hnone⟩

end Request

end SchemaKit
