import SchemaKit.Store.Run

/-!
# Running what may fail

`Job.attempt` does a job that may end in an error on a store at one go, and `Work.attempt` does the
same inside a transaction.  Both are described by one equation for each way of building a job.
-/

namespace SchemaKit

/-! ## Inside a transaction -/

namespace Work

variable {α β : Type} (tx : Transaction) (s : Store)

/-- Does a piece of work that may fail inside a transaction. -/
def attempt (w : ExceptT StoreError Work α) : Except StoreError α × Transaction × Store :=
  w.run.run tx s

@[simp] theorem attempt_pure (a : α) :
    attempt tx s (pure a : ExceptT StoreError Work α) = (.ok a, tx, s) := rfl

@[simp] theorem attempt_tell (e : Event) : attempt tx s (tell e) = (.ok (), tx, s.report e) := rfl

@[simp] theorem attempt_query (q : Statement) : attempt tx s (query q) = tx.execute s q := by
  unfold attempt query
  rfl

theorem attempt_bind (w : ExceptT StoreError Work α) (f : α → ExceptT StoreError Work β) :
    attempt tx s (w >>= f) =
      match attempt tx s w with
      | (.ok a, tx, s) => attempt tx s (f a)
      | (.error e, tx, s) => (.error e, tx, s) := by
  unfold attempt
  rw [ExceptT.run_bind]
  change ((w.run).bind _).run tx s = _
  rw [run_bind]
  rcases w.run.run tx s with ⟨_ | a, tx', s'⟩ <;> rfl

end Work

/-! ## On a store -/

namespace Job

variable {ε α β : Type} (t : TrackingTable) (s : Store)

/-- Does a job that may fail on a store at one go. -/
def attempt (j : ExceptT ε Job α) : Except ε α × Store :=
  j.run.run t s

@[simp] theorem attempt_pure (a : α) : attempt t s (pure a : ExceptT ε Job α) = (.ok a, s) := rfl

theorem attempt_bind (j : ExceptT ε Job α) (f : α → ExceptT ε Job β) :
    attempt t s (j >>= f) =
      match attempt t s j with
      | (.ok a, s) => attempt t s (f a)
      | (.error e, s) => (.error e, s) := by
  unfold attempt
  rw [ExceptT.run_bind]
  change ((j.run).bind _).run t s = _
  rw [run_bind]
  rcases j.run.run t s with ⟨_ | a, s'⟩ <;> rfl

theorem attempt_bind_of_ok {j : ExceptT ε Job α} {f : α → ExceptT ε Job β} {a : α} {s' : Store}
    (h : attempt t s j = (.ok a, s')) : attempt t s (j >>= f) = attempt t s' (f a) := by
  rw [attempt_bind, h]

theorem attempt_bind_of_error {j : ExceptT ε Job α} {f : α → ExceptT ε Job β} {e : ε} {s' : Store}
    (h : attempt t s j = (.error e, s')) : attempt t s (j >>= f) = (.error e, s') := by
  rw [attempt_bind, h]

@[simp] theorem attempt_lift (j : Job α) :
    attempt t s (ExceptT.lift j : ExceptT ε Job α) = (.ok (j.run t s).1, (j.run t s).2) := by
  unfold attempt
  rw [ExceptT.run_lift]
  exact run_bind j _ t s

/-- A job whose failure is looked at and not passed on. -/
theorem attempt_lift_run {ε' : Type} (j : ExceptT ε' Job α) :
    attempt t s (ExceptT.lift j.run : ExceptT ε Job (Except ε' α)) =
      (.ok (attempt t s j).1, (attempt t s j).2) :=
  attempt_lift t s j.run

@[simp] theorem attempt_query (wrap : StoreError → ε) (q : Statement) :
    attempt t s (query wrap q) = ((s.execute t q).1.mapError wrap, (s.execute t q).2) := rfl

@[simp] theorem attempt_transaction (wrap : StoreError → ε) (w : ExceptT StoreError Work Unit) :
    attempt t s (transaction wrap w) =
      ((w.run.transact t s).1.mapError wrap, (w.run.transact t s).2) := rfl

end Job

end SchemaKit
