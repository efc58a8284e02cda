import SchemaKit.Sql.IndexMethod
import SchemaKit.Statement

/-!
# Index

CREATE INDEX on one or more columns of a table.  An index that is given no name is called after its
table and columns.
-/

namespace SchemaKit

/-- An index to be created. -/
structure Index where
  table : String
  columns : List String
  schema : String := defaultSchema
  name : Option String := none
  method : String := Sql.IndexMethod.standard.name
  unique : Bool := false
  ifNotExists : Bool := true

namespace Index

open Statement

/-- The name an index gets when it is given none. -/
def defaultName (table : String) (columns : List String) : String :=
  "idx_" ++ table ++ "_" ++ "_".intercalate columns

def indexName (s : Index) : String :=
  s.name.getD (defaultName s.table s.columns)

def text (s : Index) (method : Sql.IndexMethod) : String :=
  "CREATE " ++ (if s.unique then "UNIQUE " else "") ++ "INDEX " ++
    (if s.ifNotExists then "IF NOT EXISTS " else "") ++ s.indexName ++ " ON " ++
    qualified s.schema s.table ++ " USING " ++ method.name ++ " (" ++ commaList s.columns ++ ")"

def build (s : Index) : Except BuildError Statement := do
  names [s.table, s.schema]
  if s.columns.isEmpty then throw .noColumns
  names s.columns
  names s.name.toList
  let method ← fragment (Sql.IndexMethod.check s.method)
  return ⟨s.text method, []⟩

end Index

end SchemaKit
