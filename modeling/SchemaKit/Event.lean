/-!
# Events

What is reported while statements and migrations run.  Each event has a level and a wording.
-/

namespace SchemaKit

/-- How much an event matters. -/
inductive Level
  | debug
  | info
  | warn
deriving DecidableEq

/-- Something worth reporting.  A migration is named by its label and a failure by its wording. -/
inductive Event
  | running (sql : String)
  | executing (sql : String)
  | buffering (sql : String)
  | transactionDropped
  | inserted (rows statements : Nat)
  | recording (version : Int64) (table : String)
  | removing (version : Int64) (table : String)
  | fileSkipped (path why : String)
  | nothingPending (directory : String)
  | applying (label : String)
  | emptyUp (label : String)
  | applied (label : String)
  | applyFailed (label why : String)
  | revoking (label : String)
  | revoked (label : String)
  | revokeFailed (label why : String)
  | fileCreated (path : String)
deriving DecidableEq

namespace Event

def level : Event → Level
  | running _ | executing _ | buffering _ | transactionDropped | inserted _ _ | recording _ _
  | removing _ _ | nothingPending _ | emptyUp _ => .debug
  | applying _ | applied _ | revoking _ | revoked _ | fileCreated _ => .info
  | fileSkipped _ _ | applyFailed _ _ | revokeFailed _ _ => .warn

def message : Event → String
  | running sql => "Executing: " ++ sql
  | executing sql => "InMemoryExecutor executing: " ++ sql
  | buffering sql => "InMemoryTransaction buffering: " ++ sql
  | transactionDropped =>
    "InMemoryTransaction dropped without commit() or rollback(). " ++
      "Changes were discarded (implicit rollback)."
  | inserted rows statements =>
    "Inserted " ++ toString rows ++ " rows in " ++ toString statements ++ " statements"
  | recording version table => "Recording migration " ++ toString version ++ " in " ++ table
  | removing version table => "Removing migration " ++ toString version ++ " from " ++ table
  | fileSkipped path why => "Skipping " ++ path ++ ": " ++ why
  | nothingPending directory => "No pending migrations in " ++ directory
  | applying label => "Running migration " ++ label ++ "..."
  | emptyUp label => "Migration " ++ label ++ " has an empty UP section"
  | applied label => "Migration " ++ label ++ " applied successfully"
  | applyFailed label why => "Migration " ++ label ++ " failed: " ++ why
  | revoking label => "Rolling back migration " ++ label ++ "..."
  | revoked label => "Migration " ++ label ++ " rolled back"
  | revokeFailed label why => "Rollback of migration " ++ label ++ " failed: " ++ why
  | fileCreated path => "Created migration " ++ path

end Event

end SchemaKit
