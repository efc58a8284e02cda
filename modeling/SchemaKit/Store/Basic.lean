import SchemaKit.Event
import SchemaKit.Store.Tracking
import SchemaKit.Text.Search

/-!
# Stores

A database in memory.  It understands the statements of one tracking table and keeps every other
statement in a log, in the order in which it took effect.  A statement that holds a failure marker
is refused, whatever it is; a logged statement that holds the marker of an answer gives the rows of
that answer.  Which table is the tracking table is up to whoever runs a statement: handles on one
store may differ in it.
-/

namespace SchemaKit

/-- A database in memory.  `clock` is the moment that records are stamped with, and `journal` what
has been reported so far, oldest first. -/
structure Store where
  clock : Timestamp
  tracked : Tracked := {}
  executed : List Statement := []
  failures : List String := []
  responses : List (String × List Row) := []
  journal : List Event := []

namespace Store

def report (s : Store) (e : Event) : Store :=
  { s with journal := s.journal ++ [e] }

def failure? (s : Store) (sql : String) : Option String :=
  s.failures.find? fun marker => Text.contains sql marker

/-- The rows of the first answer whose marker stands in a text. -/
def response (s : Store) (sql : String) : List Row :=
  match s.responses.find? fun r => Text.contains sql r.1 with
  | some r => r.2
  | none => []

/-- What a statement is to a store: refused, an operation on the tracking table, or neither. -/
def classify (t : TrackingTable) (s : Store) (q : Statement) :
    Except StoreError (Option TrackingOp) :=
  match s.failure? q.sql with
  | some marker => .error (.injected marker)
  | none => TrackingOp.ofStatement t q

def execute (t : TrackingTable) (s : Store) (q : Statement) :
    Except StoreError (List Row) × Store :=
  match s.classify t q with
  | .error e => (.error e, s)
  | .ok none =>
    (.ok (s.response q.sql),
      { s with executed := s.executed ++ [q], journal := s.journal ++ [.executing q.sql] })
  | .ok (some op) =>
    match s.tracked.apply t s.clock op with
    | .error e => (.error e, s)
    | .ok (rows, tracked) => (.ok rows, { s with tracked })

/-- Refuses from now on every statement whose text holds a marker. -/
def failOn (s : Store) (marker : String) : Store :=
  { s with failures := s.failures ++ [marker] }

def clearFailures (s : Store) : Store :=
  { s with failures := [] }

/-- Answers from now on every logged statement whose text holds a marker with the given rows, unless
an earlier answer takes it. -/
def respondTo (s : Store) (marker : String) (rows : List Row) : Store :=
  { s with responses := s.responses ++ [(marker, rows)] }

/-- Takes a version as applied without running anything. -/
def seed (s : Store) (version : Int64) (name : String) : Store :=
  { s with tracked := ⟨true, s.tracked.ledger.put ⟨version, name, s.clock⟩⟩ }

def versions (s : Store) : List Int64 :=
  s.tracked.ledger.versions

end Store

end SchemaKit
