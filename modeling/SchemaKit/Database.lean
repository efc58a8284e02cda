import SchemaKit.Job
import SchemaKit.Record
import SchemaKit.Statement.Compression
import SchemaKit.Statement.Hypertable
import SchemaKit.Statement.Index
import SchemaKit.Statement.Insert
import SchemaKit.Statement.Select

/-!
# Databases

The everyday calls: each builds a statement and runs it.  A batch of rows is cut into statements
that run in one transaction, so all of its rows arrive or none.
-/

namespace SchemaKit

/-- The most rows of one INSERT of a batch, unless it is said otherwise. -/
def defaultBatchSize : Nat := 1000

/-- Why a call fails. -/
inductive DatabaseError
  | build (why : BuildError)
  | execute (why : StoreError)
  | missingText (column : String)
deriving DecidableEq

def DatabaseError.message : DatabaseError → String
  | .build why => why.message
  | .execute why => "Query failed: " ++ why.message
  | .missingText column =>
    "Unexpected result row: missing text column " ++ Text.quote column

/-- The name of a kind of failure.  A statement that cannot be built goes by its own. -/
def DatabaseError.kind : DatabaseError → String
  | .build why => why.kind
  | .execute _ => "Execute"
  | .missingText _ => "Decode"

/-- The settings of the everyday calls. -/
structure Database where
  batchSize : Nat := defaultBatchSize

namespace Database

abbrev Attempt (α : Type) := ExceptT DatabaseError Job α

/-- What was decided without the store. -/
def decided {α : Type} (r : Except DatabaseError α) : Attempt α :=
  ExceptT.mk (.done r)

/-- A built statement, or the refusal to build it. -/
def built {α : Type} (r : Except BuildError α) : Attempt α :=
  decided (r.mapError .build)

def execute (q : Statement) : Attempt (List Row) :=
  Job.query .execute q

/-- Runs text that binds nothing. -/
def executeScript (sql : String) : Attempt Unit := do
  let _ ← execute ⟨sql, []⟩

/-- Runs a built statement, and reports it. -/
def run (q : Statement) : Attempt (List Row) := do
  ExceptT.lift (Job.tell (.running q.sql))
  execute q

/-- Builds a statement and runs it for what it does. -/
def perform (q : Except BuildError Statement) : Attempt Unit := do
  let q ← built q
  let _ ← run q

/-- Inserts a row into a table of the default schema, by the row's own columns. -/
def insert (table : String) (row : Row) : Attempt Unit :=
  perform (Insert.build { table, columns := row.columns } row)

/-- Runs statements in order inside a transaction. -/
def executeAll : List Statement → ExceptT StoreError Work Unit
  | [] => return
  | q :: rest => do
    let _ ← Work.query q
    executeAll rest

/-- Inserts rows in statements of the batch size, all in one transaction, and gives the number of
rows.  No rows are sent nowhere. -/
def insertBatch (db : Database) (insert : Insert) (rows : List Row) : Attempt Nat := do
  if rows.isEmpty then return 0
  let statements ← built (insert.buildChunks rows db.batchSize)
  Job.transaction .execute (executeAll statements)
  ExceptT.lift (Job.tell (.inserted rows.length statements.length))
  return rows.length

/-- Inserts records into a table of the default schema, by the columns of their type. -/
def insertRecords (db : Database) (table : String) (type : RecordType)
    (records : List (String → Value)) : Attempt Nat :=
  db.insertBatch { table, columns := type.columns } (records.map type.toRow)

def select (q : Select) : Attempt (List Row) := do
  run (← built q.build)

def createIndex (q : Index) : Attempt Unit :=
  perform q.build

def createHypertable (q : Hypertable) : Attempt Unit :=
  perform q.build

def enableCompression (q : Compression) : Attempt Unit :=
  perform q.build

def addPolicy (p : Policy) (schema table interval : String) : Attempt Unit :=
  perform (p.build schema table interval)

/-- The texts in a column of some rows. -/
def textColumn (column : String) (rows : List Row) : Except DatabaseError (List String) :=
  rows.mapM fun row =>
    match (row.get? column).bind Value.text? with
    | some s => .ok s
    | none => .error (.missingText column)

def schemasQuery : Statement :=
  ⟨"SELECT schema_name::text AS schema_name FROM information_schema.schemata " ++
    "WHERE schema_name NOT LIKE 'pg_%' AND schema_name != 'information_schema' " ++
    "ORDER BY schema_name", []⟩

def schemaQuery (name : String) : Statement :=
  ⟨"SELECT 1 FROM information_schema.schemata WHERE schema_name = $1", [.text name]⟩

def tablesQuery (schema : String) : Statement :=
  ⟨"SELECT table_name::text AS table_name FROM information_schema.tables " ++
    "WHERE table_schema = $1 AND table_type = 'BASE TABLE' ORDER BY table_name", [.text schema]⟩

def tableQuery (schema name : String) : Statement :=
  ⟨"SELECT 1 FROM information_schema.tables WHERE table_schema = $1 AND table_name = $2",
    [.text schema, .text name]⟩

/-- The schemas that belong to users. -/
def listSchemas : Attempt (List String) := do
  decided (textColumn "schema_name" (← execute schemasQuery))

def schemaExists (name : String) : Attempt Bool := do
  return !(← execute (schemaQuery name)).isEmpty

def listTables (schema : String) : Attempt (List String) := do
  decided (textColumn "table_name" (← execute (tablesQuery schema)))

def tableExists (schema name : String) : Attempt Bool := do
  return !(← execute (tableQuery schema name)).isEmpty

end Database

end SchemaKit
