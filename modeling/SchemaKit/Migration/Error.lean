import SchemaKit.Folder
import SchemaKit.Migration.FileName
import SchemaKit.Migration.Tracking
import SchemaKit.Store.Error

/-!
# Errors of migrations

What can go wrong with migrations, and the wording of it.  An error that stops a run half-way
(`applyFailed`, `rollbackFailed`) carries the versions that were done before it and stay done.
-/

namespace SchemaKit

/-- Why a migration could not be applied. -/
inductive ApplyFault
  | file (path : String) (why : FileError)
  | store (why : StoreError)
deriving DecidableEq

/-- Why a tracking table could not be created or read. -/
inductive TrackingFault
  | store (why : StoreError)
  | record (why : RecordFault)
deriving DecidableEq

/-- What can go wrong with migrations. -/
inductive MigrationError
  | directoryNotFound (path : String)
  | invalidTable (why : Sql.Rejection)
  | invalidFileName (name : String)
  | applyFailed (version : Version) (name : String) (applied : List Version) (why : ApplyFault)
  | missingFile (version : Version)
  | missingDown (version : Version) (name : String)
  | rollbackFailed (version : Version) (name : String) (rolledBack : List Version)
      (why : StoreError)
  | file (path : String) (why : FileError)
  | tracking (why : TrackingFault)
  | invalidName (name : String)
  | versionOverflow
deriving DecidableEq

def fileMessage (path : String) (why : FileError) : String :=
  "I/O error on " ++ path ++ ": " ++ why.message

def ApplyFault.message : ApplyFault → String
  | .file path why => fileMessage path why
  | .store why => why.message

def TrackingFault.message : TrackingFault → String
  | .store why => why.message
  | .record why => why.message

def MigrationError.message : MigrationError → String
  | .directoryNotFound path => "Migrations directory not found: " ++ path
  | .invalidTable why => "Invalid migration table name: " ++ why.message
  | .invalidFileName name =>
    "Invalid migration filename: " ++ name ++ ". Expected format: NNN_description.sql"
  | .applyFailed version name _ why =>
    "Migration " ++ FileName.label version name ++ " failed: " ++ why.message
  | .missingFile version => "Migration file for version " ++ toString version ++ " not found"
  | .missingDown version name => "No DOWN section in migration " ++ FileName.label version name
  | .rollbackFailed version name _ why =>
    "Rollback of migration " ++ FileName.label version name ++ " failed: " ++ why.message
  | .file path why => fileMessage path why
  | .tracking why => "Migration tracking table error: " ++ why.message
  | .invalidName name => "Invalid migration name: " ++ Text.quote name
  | .versionOverflow => "No version left after " ++ toString FileName.maxVersion

/-- The name of a kind of migration error. -/
def MigrationError.kind : MigrationError → String
  | .directoryNotFound _ => "DirectoryNotFound"
  | .invalidTable _ => "InvalidTable"
  | .invalidFileName _ => "InvalidFilename"
  | .applyFailed .. => "ApplyFailed"
  | .missingFile _ => "MissingFile"
  | .missingDown .. => "MissingDownSection"
  | .rollbackFailed .. => "RollbackFailed"
  | .file .. => "Io"
  | .tracking _ => "Tracking"
  | .invalidName _ => "InvalidName"
  | .versionOverflow => "VersionOverflow"

end SchemaKit
