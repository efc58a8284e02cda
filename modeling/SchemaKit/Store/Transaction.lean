import SchemaKit.Store.Basic

/-!
# Transactions

A transaction sees the tracking table as it was when the transaction began, with its own changes on
top.  Its changes and its other statements reach the store together when it is committed: the
changes are made again on the table as it then is, and if one of them is refused nothing happens at
all.
-/

namespace SchemaKit

/-- A transaction on a store: the tracking table it understands, the state of that table as seen
from inside, and what is to be done when it is committed. -/
structure Transaction where
  table : TrackingTable
  shadow : Tracked
  ops : List TrackingOp := []
  statements : List Statement := []

namespace Transaction

def start (t : TrackingTable) (s : Store) : Transaction :=
  { table := t, shadow := s.tracked }

def execute (tx : Transaction) (s : Store) (q : Statement) :
    Except StoreError (List Row) × Transaction × Store :=
  match s.classify tx.table q with
  | .error e => (.error e, tx, s)
  | .ok none =>
    (.ok (s.response q.sql), { tx with statements := tx.statements ++ [q] },
      s.report (.buffering q.sql))
  | .ok (some op) =>
    match tx.shadow.apply tx.table s.clock op with
    | .error e => (.error e, tx, s)
    | .ok (rows, shadow) =>
      (.ok rows, { tx with shadow, ops := if op = .select then tx.ops else tx.ops ++ [op] }, s)

/-- Makes the changes of a transaction on the store, all of them or none. -/
def commit (tx : Transaction) (s : Store) : Except StoreError Unit × Store :=
  match s.tracked.applyAll tx.table s.clock tx.ops with
  | .error e => (.error e, s)
  | .ok tracked => (.ok (), { s with tracked, executed := s.executed ++ tx.statements })

/-- Ends a transaction without making its changes. -/
def rollback (_ : Transaction) (s : Store) : Store :=
  s

/-- Ends a transaction that was neither committed nor rolled back. -/
def drop (_ : Transaction) (s : Store) : Store :=
  s.report .transactionDropped

end Transaction

end SchemaKit
