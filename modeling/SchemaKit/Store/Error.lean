import SchemaKit.Text.Quoted

/-!
# Errors of a store

Why a store refuses a statement.
-/

namespace SchemaKit

/-- Why a store refuses a statement. -/
inductive StoreError
  | injected (marker : String)
  | duplicateVersion (version : Int64)
  | undefinedTable (table : String)
  | badParameters (sql : String)
deriving DecidableEq

def StoreError.message : StoreError → String
  | .injected marker => "Statement rejected: contains failure marker " ++ Text.quote marker
  | .duplicateVersion version =>
    "Duplicate key value violates primary key: version " ++ toString version ++
      " is already recorded"
  | .undefinedTable table => "Relation " ++ Text.quote table ++ " does not exist"
  | .badParameters sql => "Unexpected parameters for: " ++ sql

/-- The name of a kind of refusal. -/
def StoreError.kind : StoreError → String
  | .injected _ => "Injected"
  | .duplicateVersion _ => "DuplicateVersion"
  | .undefinedTable _ => "UndefinedTable"
  | .badParameters _ => "BadParameters"

end SchemaKit
