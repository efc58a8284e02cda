import Mathlib.Logic.Function.Basic
import SchemaKit.Store.Run

/-!
# Jobs side by side

`Job.run` does one job at one go.  Here any number of callers, each with a job of its own, take turns
on one store, and at each turn one caller makes a single request.  A statement outside a transaction
is always answered.  A transaction is opened only while none is, and until then the caller who asks
for one waits, so that a turn given to that caller is lost.
-/

namespace SchemaKit

/-- Where a caller stands: outside any transaction, or in one, with what is left to be done there
and what is done with the outcome of the transaction. -/
inductive Caller (α : Type) where
  | outside (j : Job α)
  | inside (tx : Transaction) (w : Work (Except StoreError Unit))
    (next : Except StoreError Unit → Job α)

/-- What a caller has found, once nothing is left to be done. -/
def Caller.result? {α : Type} : Caller α → Option α
  | outside (.done a) => some a
  | _ => none

/-- What happens next among callers: one of them has a turn, or time passes. -/
inductive Beat (ι : Type) where
  | turn (i : ι)
  | wait (now : Timestamp)

/-- Callers on one store.  `holder` is the caller whose transaction is open, and `committed` the
transactions that have been committed, oldest first, each with the caller whose it was. -/
structure Crowd (ι α : Type) where
  store : Store
  callers : ι → Caller α
  holder : Option ι := none
  committed : List (ι × Transaction) := []

namespace Crowd

variable {ι α : Type}

def start (s : Store) (jobs : ι → Job α) : Crowd ι α :=
  { store := s, callers := fun i => .outside (jobs i) }

variable [DecidableEq ι]

/-- One caller goes on to stand elsewhere; the store may have changed, and who holds the lock. -/
def move (c : Crowd ι α) (i : ι) (caller : Caller α) (s : Store) (holder : Option ι) : Crowd ι α :=
  { c with store := s, callers := Function.update c.callers i caller, holder }

section Move

variable (c : Crowd ι α) (i : ι) (caller : Caller α) (s : Store) (holder : Option ι)

@[simp] theorem holder_move : (c.move i caller s holder).holder = holder := rfl

@[simp] theorem callers_move_self : (c.move i caller s holder).callers i = caller :=
  Function.update_self ..

theorem callers_move_of_ne {j : ι} (h : j ≠ i) :
    (c.move i caller s holder).callers j = c.callers j :=
  Function.update_of_ne h ..

end Move

/-- One caller makes a single request. -/
def turn (t : TrackingTable) (c : Crowd ι α) (i : ι) : Crowd ι α :=
  match c.callers i with
  | .outside (.done _) => c
  | .outside (.report e next) => c.move i (.outside next) (c.store.report e) c.holder
  | .outside (.execute q next) =>
    let (r, s) := c.store.execute t q
    c.move i (.outside (next r)) s c.holder
  | .outside (.transact w next) =>
    match c.holder with
    -- the lock is held: this turn is lost, and the caller asks again at the next
    | some _ => c
    | none => c.move i (.inside (.start t c.store) w next) c.store (some i)
  | .inside tx (.report e w) next => c.move i (.inside tx w next) (c.store.report e) c.holder
  | .inside tx (.execute q w) next =>
    let (r, tx, s) := tx.execute c.store q
    c.move i (.inside tx (w r) next) s c.holder
  | .inside tx (.done (.error e)) next =>
    c.move i (.outside (next (.error e))) (tx.drop c.store) none
  | .inside tx (.done (.ok ())) next =>
    match tx.commit c.store with
    | (.error e, s) => c.move i (.outside (next (.error e))) s none
    | (.ok (), s) =>
      { c.move i (.outside (next (.ok ()))) s none with committed := c.committed ++ [(i, tx)] }

section Turn

variable {t : TrackingTable} {c : Crowd ι α} {i : ι}

theorem turn_done {a : α} (h : c.callers i = .outside (.done a)) : c.turn t i = c := by
  simp only [turn, h]

theorem turn_report {e : Event} {next : Job α} (h : c.callers i = .outside (.report e next)) :
    c.turn t i = c.move i (.outside next) (c.store.report e) c.holder := by
  simp only [turn, h]

theorem turn_execute {q : Statement} {next : Except StoreError (List Row) → Job α}
    (h : c.callers i = .outside (.execute q next)) :
    c.turn t i =
      c.move i (.outside (next (c.store.execute t q).1)) (c.store.execute t q).2 c.holder := by
  simp only [turn, h]

section Inside

variable {tx : Transaction} {w : Work (Except StoreError Unit)}
  {next : Except StoreError Unit → Job α}

theorem turn_transact_of_held (h : c.callers i = .outside (.transact w next))
    (hheld : c.holder ≠ none) : c.turn t i = c := by
  obtain ⟨j, hj⟩ := Option.ne_none_iff_exists'.mp hheld
  simp only [turn, h, hj]

theorem turn_transact_of_free (h : c.callers i = .outside (.transact w next))
    (hfree : c.holder = none) :
    c.turn t i = c.move i (.inside (.start t c.store) w next) c.store (some i) := by
  simp only [turn, h, hfree]

theorem turn_inside_report {e : Event} (h : c.callers i = .inside tx (.report e w) next) :
    c.turn t i = c.move i (.inside tx w next) (c.store.report e) c.holder := by
  simp only [turn, h]

theorem turn_inside_execute {q : Statement} {w : Except StoreError (List Row) → Work _}
    (h : c.callers i = .inside tx (.execute q w) next) :
    c.turn t i =
      c.move i (.inside (tx.execute c.store q).2.1 (w (tx.execute c.store q).1) next)
        (tx.execute c.store q).2.2 c.holder := by
  simp only [turn, h]

theorem turn_drop {e : StoreError} (h : c.callers i = .inside tx (.done (.error e)) next) :
    c.turn t i = c.move i (.outside (next (.error e))) (tx.drop c.store) none := by
  simp only [turn, h]

theorem turn_commit_error {e : StoreError} {s : Store}
    (h : c.callers i = .inside tx (.done (.ok ())) next) (hs : tx.commit c.store = (.error e, s)) :
    c.turn t i = c.move i (.outside (next (.error e))) s none := by
  simp only [turn, h, hs]

theorem turn_commit_ok {s : Store} (h : c.callers i = .inside tx (.done (.ok ())) next)
    (hs : tx.commit c.store = (.ok (), s)) :
    c.turn t i = { c.move i (.outside (next (.ok ()))) s none with
      committed := c.committed ++ [(i, tx)] } := by
  simp only [turn, h, hs]

end Inside

end Turn

def beat (t : TrackingTable) (c : Crowd ι α) : Beat ι → Crowd ι α
  | .turn i => c.turn t i
  | .wait now => { c with store := { c.store with clock := now } }

/-- What has become of callers after turns in the given order. -/
def after (t : TrackingTable) (c : Crowd ι α) (schedule : List (Beat ι)) : Crowd ι α :=
  schedule.foldl (beat t) c

end Crowd

end SchemaKit
