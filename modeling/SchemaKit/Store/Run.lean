import SchemaKit.Job
import SchemaKit.Store.Transaction

/-!
# Running jobs

`Job.run` does a job on a store at one go, with no other transaction open.
-/

namespace SchemaKit

namespace Work

variable {α β : Type}

/-- Does a piece of work inside a transaction. -/
def run (tx : Transaction) (s : Store) : Work α → α × Transaction × Store
  | done a => (a, tx, s)
  | report e next => next.run tx (s.report e)
  | execute q next =>
    let (r, tx, s) := tx.execute s q
    (next r).run tx s

/-- Does a piece of work in a transaction of its own: committed if the work succeeds, and dropped if
it fails. -/
def transact (t : TrackingTable) (s : Store) (w : Work (Except StoreError Unit)) :
    Except StoreError Unit × Store :=
  match w.run (Transaction.start t s) s with
  | (.ok (), tx, s) => tx.commit s
  | (.error e, tx, s) => (.error e, tx.drop s)

theorem run_bind (w : Work α) (f : α → Work β) (tx : Transaction) (s : Store) :
    (w.bind f).run tx s = (f (w.run tx s).1).run (w.run tx s).2.1 (w.run tx s).2.2 := by
  induction w generalizing tx s with
  | done a => rfl
  | report e next ih => simp [bind, run, ih]
  | execute q next ih => simp [bind, run, ih]

end Work

namespace Job

variable {α β : Type}

/-- Does a job on a store at one go. -/
def run (t : TrackingTable) (s : Store) : Job α → α × Store
  | done a => (a, s)
  | report e next => next.run t (s.report e)
  | execute q next =>
    let (r, s) := s.execute t q
    (next r).run t s
  | transact w next =>
    let (r, s) := w.transact t s
    (next r).run t s

theorem run_bind (j : Job α) (f : α → Job β) (t : TrackingTable) (s : Store) :
    (j.bind f).run t s = (f (j.run t s).1).run t (j.run t s).2 := by
  induction j generalizing s with
  | done a => rfl
  | report e next ih => simp [bind, run, ih]
  | execute q next ih => simp [bind, run, ih]
  | transact w next ih => simp [bind, run, ih]

end Job

end SchemaKit
