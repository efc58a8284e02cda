import SchemaKit.Statement

/-!
# Insert

An INSERT into one table.  `build` binds one row, `buildBatch` all rows in one statement, and
`buildChunks` cuts the rows into statements of a given size.  The values of a row are read by column
name in the order of the statement's columns, and a column that a row lacks is bound to null.  In a
batch the values stand row after row, in step with the numbers of the placeholders.
-/

namespace SchemaKit

/-- An INSERT to be built.  What follows ON CONFLICT is trusted text. -/
structure Insert where
  table : String
  schema : String := defaultSchema
  columns : List String := []
  onConflict : Option String := none

namespace Insert

open Statement

/-- Checks the names of the table, of the schema and of one or more columns, in this order. -/
def check (s : Insert) : Except BuildError Unit := do
  names [s.table, s.schema]
  if s.columns.isEmpty then throw .noColumns
  names s.columns

/-- The numbers of consecutive placeholders in parentheses. -/
def group (first width : Nat) : String :=
  "(" ++ commaList ((List.range' first width).map placeholder) ++ ")"

/-- The groups of placeholders of some rows of one width, numbered through. -/
def groups (width rows : Nat) : List String :=
  (List.range rows).map fun i => group (i * width + 1) width

def text (s : Insert) (rows : Nat) : String :=
  "INSERT INTO " ++ qualified s.schema s.table ++ " (" ++ commaList s.columns ++ ") VALUES " ++
    commaList (groups s.columns.length rows) ++
    match s.onConflict with
    | some clause => " ON CONFLICT " ++ clause
    | none => ""

/-- The values of a row in the order of the statement's columns. -/
def rowParams (s : Insert) (row : Row) : List Value :=
  s.columns.map row.getD

def build (s : Insert) (row : Row) : Except BuildError Statement := do
  s.check
  return ⟨s.text 1, s.rowParams row⟩

/-- The statement for one or more rows at once. -/
def buildBatch (s : Insert) (rows : List Row) : Except BuildError Statement := do
  s.check
  if rows.isEmpty then throw .emptyBatch
  let count := s.columns.length * rows.length
  if maxBindParams < count then throw (.tooManyParameters count)
  return ⟨s.text rows.length, rows.flatMap s.rowParams⟩

/-- A list in pieces of the given size, the last of which may be shorter. -/
def chunks {α : Type} (size : Nat) (xs : List α) : List (List α) :=
  match xs with
  | [] => []
  | x :: rest => (x :: rest.take (size - 1)) :: chunks size (rest.drop (size - 1))
termination_by xs.length

/-- The statements for some rows, each with at most `size` of them.  No rows give no statements. -/
def buildChunks (s : Insert) (rows : List Row) (size : Nat) :
    Except BuildError (List Statement) := do
  if size = 0 then throw .invalidChunkSize
  s.check
  (chunks size rows).mapM s.buildBatch

end Insert

end SchemaKit
