import SchemaKit.Statement

/-!
# Select

A SELECT from one table.  The clauses always come in the order WHERE, ORDER BY, LIMIT, OFFSET.  The
condition and the ordering are trusted text; the values of the condition are bound.
-/

namespace SchemaKit

/-- A SELECT to be built.  Without columns it selects all of them. -/
structure Select where
  table : String
  schema : String := defaultSchema
  columns : List String := []
  condition : Option (String × List Value) := none
  orderBy : Option String := none
  limit : Option Nat := none
  offset : Option Nat := none

namespace Select

open Statement

/-- A clause with its keyword and a blank in front, or nothing. -/
def clause (keyword : String) : Option String → String
  | some body => " " ++ keyword ++ " " ++ body
  | none => ""

def projection (s : Select) : String :=
  if s.columns.isEmpty then "*" else commaList s.columns

def text (s : Select) : String :=
  "SELECT " ++ s.projection ++ " FROM " ++ qualified s.schema s.table ++
    clause "WHERE" (s.condition.map Prod.fst) ++ clause "ORDER BY" s.orderBy ++
    clause "LIMIT" (s.limit.map toString) ++ clause "OFFSET" (s.offset.map toString)

/-- The statement, with the values of its condition. -/
def build (s : Select) : Except BuildError Statement := do
  names [s.table, s.schema]
  names s.columns
  return ⟨s.text, (s.condition.map Prod.snd).getD []⟩

end Select

end SchemaKit
