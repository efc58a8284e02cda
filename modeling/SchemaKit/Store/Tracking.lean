import SchemaKit.Store.Error
import SchemaKit.Store.Ledger

/-!
# Tracking operations

The four statements of one tracking table are the only SQL a store understands.
`TrackingOp.ofStatement` recognises them by their exact text, and `Tracked.apply` says what they do.
-/

namespace SchemaKit

/-- What a statement of a tracking table asks for. -/
inductive TrackingOp
  | create
  | select
  | record (version : Int64) (name : String)
  | remove (version : Int64)
deriving DecidableEq

namespace TrackingOp

/-- Recognises a statement of a table by its text.  A statement that writes must bind the values it
writes, no more and no fewer; any other text is none of the table's. -/
def ofStatement (t : TrackingTable) (q : Statement) : Except StoreError (Option TrackingOp) :=
  if q.sql = t.createText then .ok (some create)
  else if q.sql = t.selectText then .ok (some select)
  else if q.sql = t.insertText then
    match q.params with
    | [.int version, .text name] => .ok (some (record version name))
    | _ => .error (.badParameters q.sql)
  else if q.sql = t.deleteText then
    match q.params with
    | [.int version] => .ok (some (remove version))
    | _ => .error (.badParameters q.sql)
  else .ok none

end TrackingOp

/-- A tracking table in a store: whether it has been created, and its records. -/
structure Tracked where
  created : Bool := false
  ledger : Ledger := ∅

namespace Tracked

/-- What an operation does to the table: the rows it gives and the table after it.  Nothing but its
creation can be done to a table that is not there. -/
def apply (t : TrackingTable) (clock : Timestamp) (s : Tracked) :
    TrackingOp → Except StoreError (List Row × Tracked)
  | .create => .ok ([], { s with created := true })
  | .select =>
    if s.created then .ok (s.ledger.records.map Applied.toRow, s)
    else .error (.undefinedTable t.name)
  | .record version name =>
    if s.created then
      if s.ledger.contains version then .error (.duplicateVersion version)
      else .ok ([], { s with ledger := s.ledger.put ⟨version, name, clock⟩ })
    else .error (.undefinedTable t.name)
  | .remove version =>
    if s.created then .ok ([], { s with ledger := s.ledger.erase version })
    else .error (.undefinedTable t.name)

/-- Applies operations one after the other, up to the first that is refused. -/
def applyAll (t : TrackingTable) (clock : Timestamp) (s : Tracked) :
    List TrackingOp → Except StoreError Tracked
  | [] => .ok s
  | op :: ops =>
    match s.apply t clock op with
    | .ok (_, s) => s.applyAll t clock ops
    | .error e => .error e

end Tracked

end SchemaKit
