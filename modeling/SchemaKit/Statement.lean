import SchemaKit.Row
import SchemaKit.Sql.Identifier

/-!
# Statements

SQL text together with the values bound to its placeholders `$1`, `$2`, ….  Names are checked and
stand in the text; data is only ever bound.  A builder checks all its parts before it writes any
text, so a refusal (`BuildError`) never leaves half a statement behind.
-/

namespace SchemaKit

/-- SQL text with the values of its placeholders, in order. -/
structure Statement where
  sql : String
  params : List Value

/-- The most values one statement may bind. -/
def maxBindParams : Nat := 65535

/-- The schema of a statement that names none. -/
def defaultSchema : String := "public"

/-- Why a statement cannot be built. -/
inductive BuildError
  | rejected (why : Sql.Rejection)
  | noColumns
  | emptyBatch
  | tooManyParameters (count : Nat)
  | invalidChunkSize
deriving DecidableEq

def BuildError.message : BuildError → String
  | .rejected why => why.message
  | .noColumns => "INSERT requires at least one column"
  | .emptyBatch => "batch INSERT requires at least one row"
  | .tooManyParameters count =>
    "statement binds " ++ toString count ++ " parameters, Postgres accepts at most " ++
      toString maxBindParams
  | .invalidChunkSize => "rows per statement must be greater than zero"

/-- The name of a kind of refusal.  A rejected fragment goes by its own. -/
def BuildError.kind : BuildError → String
  | .rejected why => why.kind
  | .noColumns => "NoColumns"
  | .emptyBatch => "EmptyBatch"
  | .tooManyParameters _ => "TooManyParameters"
  | .invalidChunkSize => "InvalidChunkSize"

namespace Statement

/-- A refused fragment as a refusal of the statement it belongs to. -/
def fragment {α : Type} : Except Sql.Rejection α → Except BuildError α
  | .ok a => .ok a
  | .error why => .error (.rejected why)

/-- Checks that every one of some names is an identifier. -/
def names (ns : List String) : Except BuildError Unit :=
  fragment (Sql.Identifier.checkAll ns)

/-- The placeholder of the n-th bound value. -/
def placeholder (n : Nat) : String :=
  "$" ++ toString n

/-- Names with commas between them. -/
def commaList (ns : List String) : String :=
  ", ".intercalate ns

/-- A table within its schema. -/
def qualified (schema table : String) : String :=
  schema ++ "." ++ table

theorem names_eq_ok_iff {ns : List String} :
    names ns = .ok () ↔ ∀ n ∈ ns, Sql.Identifier.isIdentifier n = true := by
  rw [← Sql.Identifier.checkAll_eq_ok_iff, names]
  cases h : Sql.Identifier.checkAll ns <;> simp [fragment]

end Statement

end SchemaKit
