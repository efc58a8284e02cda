import SchemaKit.Sql.Interval
import SchemaKit.Statement

/-!
# Hypertables

Statements on tables that are cut into chunks along a time column: making a table one
(`Hypertable`), and the policies that drop or compress chunks of a certain age (`Policy`).  The
table is bound as a parameter; the interval is checked and stands in the text as a literal.
-/

namespace SchemaKit

open Statement

/-- A table as a bound value. -/
def relation (schema table : String) : Value :=
  .text (qualified schema table)

/-- An interval literal.  A checked interval holds no quote, so it needs no more than the quotes
around it. -/
def intervalLiteral (interval : String) : String :=
  "INTERVAL '" ++ interval ++ "'"

/-- A table to be turned into a hypertable. -/
structure Hypertable where
  table : String
  timeColumn : String
  schema : String := defaultSchema
  chunkInterval : String := "1 day"
  ifNotExists : Bool := true
  migrateData : Bool := true

namespace Hypertable

/-- A truth value as SQL writes it. -/
def boolean (b : Bool) : String :=
  if b then "TRUE" else "FALSE"

/-- The text of the statement with a checked interval. -/
def text (s : Hypertable) (interval : String) : String :=
  "SELECT * FROM create_hypertable($1::regclass, $2::name, chunk_time_interval => " ++
    intervalLiteral interval ++ ", if_not_exists => " ++ boolean s.ifNotExists ++
    ", migrate_data => " ++ boolean s.migrateData ++ ")"

def build (s : Hypertable) : Except BuildError Statement := do
  names [s.table, s.schema, s.timeColumn]
  let interval ← fragment (Sql.Interval.check s.chunkInterval)
  return ⟨s.text interval, [relation s.schema s.table, .text s.timeColumn]⟩

end Hypertable

/-- What is done to chunks of a certain age. -/
inductive Policy
  | retention
  | compression
deriving DecidableEq

namespace Policy

def function : Policy → String
  | retention => "add_retention_policy"
  | compression => "add_compression_policy"

/-- The argument of that function that takes the age. -/
def argument : Policy → String
  | retention => "drop_after"
  | compression => "compress_after"

def text (p : Policy) (interval : String) : String :=
  "SELECT " ++ p.function ++ "($1::regclass, " ++ p.argument ++ " => " ++
    intervalLiteral interval ++ ")"

/-- The statement that adds the policy to a table. -/
def build (p : Policy) (schema table interval : String) : Except BuildError Statement := do
  names [table, schema]
  let interval ← fragment (Sql.Interval.check interval)
  return ⟨p.text interval, [relation schema table]⟩

end Policy

end SchemaKit
