import SchemaKit.Statement

/-!
# Tracking tables

The table that records which migrations have been applied, the four statements that create, read and
write it, and the reading of its rows.  The name of a tracking table is an identifier, so it can
stand in the text of its statements.
-/

namespace SchemaKit

/-- A table that records applied migrations. -/
structure TrackingTable where
  name : String
  isIdentifier : Sql.Identifier.isIdentifier name = true
deriving DecidableEq

namespace TrackingTable

/-- The tracking table of a migrator that is given none. -/
def standard : TrackingTable := ⟨"schema_migrations", by decide +kernel⟩

/-- The tracking table of a given name, which must be an identifier. -/
def ofName (name : String) : Except Sql.Rejection TrackingTable :=
  match h : Sql.Identifier.check name with
  | .ok _ => .ok ⟨name, (Sql.Identifier.check_eq_ok_iff.1 h).1⟩
  | .error why => .error why

def createText (t : TrackingTable) : String :=
  "CREATE TABLE IF NOT EXISTS " ++ t.name ++
    " (version INTEGER PRIMARY KEY, name TEXT NOT NULL, " ++
    "applied_at TIMESTAMPTZ NOT NULL DEFAULT now())"

/-- The text that reads every record, in ascending order of the versions. -/
def selectText (t : TrackingTable) : String :=
  "SELECT version, name, applied_at FROM " ++ t.name ++ " ORDER BY version"

def insertText (t : TrackingTable) : String :=
  "INSERT INTO " ++ t.name ++ " (version, name) VALUES ($1, $2)"

def deleteText (t : TrackingTable) : String :=
  "DELETE FROM " ++ t.name ++ " WHERE version = $1"

def create (t : TrackingTable) : Statement :=
  ⟨t.createText, []⟩

def select (t : TrackingTable) : Statement :=
  ⟨t.selectText, []⟩

def record (t : TrackingTable) (version : Int64) (name : String) : Statement :=
  ⟨t.insertText, [.int version, .text name]⟩

def forget (t : TrackingTable) (version : Int64) : Statement :=
  ⟨t.deleteText, [.int version]⟩

end TrackingTable

/-- The record of an applied migration. -/
structure Applied where
  version : Int64
  name : String
  appliedAt : Timestamp
deriving DecidableEq

/-- What a row lacks that should be a record of a tracking table. -/
inductive RecordFault
  | noVersion
  | noName
  | noMoment
deriving DecidableEq

def RecordFault.message : RecordFault → String
  | .noVersion => "tracking row has no integer version"
  | .noName => "tracking row has no name"
  | .noMoment => "tracking row has no applied_at timestamp"

namespace Applied

def toRow (a : Applied) : Row :=
  Row.ofList [("version", .int a.version), ("name", .text a.name),
    ("applied_at", .timestamptz a.appliedAt)]

/-- Reads a row of a tracking table.  The first column that is missing or of the wrong kind is the
fault. -/
def ofRow (row : Row) : Except RecordFault Applied :=
  match (row.get? "version").bind Value.int? with
  | none => .error .noVersion
  | some version =>
    match (row.get? "name").bind Value.text? with
    | none => .error .noName
    | some name =>
      match (row.get? "applied_at").bind Value.moment? with
      | none => .error .noMoment
      | some appliedAt => .ok ⟨version, name, appliedAt⟩

@[simp] theorem ofRow_toRow (a : Applied) : ofRow a.toRow = .ok a := rfl

end Applied

end SchemaKit
