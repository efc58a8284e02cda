import SchemaKit.Event
import SchemaKit.Statement
import SchemaKit.Store.Error

/-!
# Jobs

What a caller does with a store, as data: a `Job` is a tree of single requests, each followed by
what is done with the answer.  `Job.transact` opens a transaction, does a piece of `Work` in it and
then commits it, or drops it if the work fails.  A job says nothing about how the store answers, so
the same job can be run at one go or step by step beside others.
-/

namespace SchemaKit

/-- What is done inside one transaction. -/
inductive Work (α : Type) where
  | done (a : α)
  | report (e : Event) (next : Work α)
  | execute (q : Statement) (next : Except StoreError (List Row) → Work α)

/-- What a caller does with a store. -/
inductive Job (α : Type) where
  | done (a : α)
  | report (e : Event) (next : Job α)
  | execute (q : Statement) (next : Except StoreError (List Row) → Job α)
  | transact (w : Work (Except StoreError Unit)) (next : Except StoreError Unit → Job α)

namespace Work

variable {α β : Type}

/-- Goes on with what was found. -/
def bind : Work α → (α → Work β) → Work β
  | done a, f => f a
  | report e next, f => report e (next.bind f)
  | execute q next, f => execute q fun r => (next r).bind f

instance : Monad Work where
  pure := done
  bind := bind

theorem bind_done (w : Work α) : w.bind done = w := by
  induction w with
  | done a => rfl
  | report e next ih => simp [bind, ih]
  | execute q next ih => simp [bind, ih]

theorem bind_assoc {γ : Type} (w : Work α) (f : α → Work β) (g : β → Work γ) :
    (w.bind f).bind g = w.bind fun a => (f a).bind g := by
  induction w with
  | done a => rfl
  | report e next ih => simp [bind, ih]
  | execute q next ih => simp [bind, ih]

instance : LawfulMonad Work :=
  LawfulMonad.mk' Work bind_done (fun _ _ => rfl) bind_assoc

def tell (e : Event) : ExceptT StoreError Work Unit :=
  ExceptT.mk (report e (done (.ok ())))

def query (q : Statement) : ExceptT StoreError Work (List Row) :=
  ExceptT.mk (execute q done)

end Work

namespace Job

variable {α β ε : Type}

def bind : Job α → (α → Job β) → Job β
  | done a, f => f a
  | report e next, f => report e (next.bind f)
  | execute q next, f => execute q fun r => (next r).bind f
  | transact w next, f => transact w fun r => (next r).bind f

instance : Monad Job where
  pure := done
  bind := bind

theorem bind_done (j : Job α) : j.bind done = j := by
  induction j with
  | done a => rfl
  | report e next ih => simp [bind, ih]
  | execute q next ih => simp [bind, ih]
  | transact w next ih => simp [bind, ih]

theorem bind_assoc {γ : Type} (j : Job α) (f : α → Job β) (g : β → Job γ) :
    (j.bind f).bind g = j.bind fun a => (f a).bind g := by
  induction j with
  | done a => rfl
  | report e next ih => simp [bind, ih]
  | execute q next ih => simp [bind, ih]
  | transact w next ih => simp [bind, ih]

instance : LawfulMonad Job :=
  LawfulMonad.mk' Job bind_done (fun _ _ => rfl) bind_assoc

def tell (e : Event) : Job Unit :=
  report e (done ())

/-- Runs a statement, with a refusal put into the caller's terms. -/
def query (wrap : StoreError → ε) (q : Statement) : ExceptT ε Job (List Row) :=
  ExceptT.mk (execute q fun r => done (r.mapError wrap))

/-- Does a piece of work in a transaction of its own, with a refusal put into the caller's terms. -/
def transaction (wrap : StoreError → ε) (w : ExceptT StoreError Work Unit) : ExceptT ε Job Unit :=
  ExceptT.mk (transact w.run fun r => done (r.mapError wrap))

end Job

end SchemaKit
