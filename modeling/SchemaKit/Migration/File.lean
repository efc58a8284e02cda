import SchemaKit.Migration.Error
import SchemaKit.Migration.Section
import SchemaKit.Path

/-!
# Migration files

A migration is known by its file name alone; its text is read when it is needed, and what is run to
apply it or to take it back is a section of that text.
-/

namespace SchemaKit

/-- A migration on disk. -/
structure Migration where
  version : Version
  name : String
  path : String
  fileName : String
deriving DecidableEq

namespace Migration

/-- The migration as it is named in messages. -/
def label (m : Migration) : String :=
  FileName.label m.version m.name

def ofFileName (path fileName : String) : Except MigrationError Migration :=
  match FileName.parse? fileName with
  | some (version, name) => .ok ⟨version, name, path, fileName⟩
  | none => .error (.invalidFileName fileName)

def ofPath (path : String) : Except MigrationError Migration :=
  match Path.fileName? path with
  | some fileName => ofFileName path fileName
  | none => .error (.invalidFileName path)

/-- The migration in a file of the given path, named in bytes.  A name that is no text is no
migration's. -/
def ofEntry (path : String) (name : EntryName) : Except MigrationError Migration :=
  match Text.Utf8.decode? name with
  | some fileName => ofFileName path fileName
  | none => .error (.invalidFileName path)

def ofBytes (path : List UInt8) : Except MigrationError Migration :=
  let shown := Text.Utf8.toStringLossy path
  match Path.entryName? path with
  | some name => ofEntry shown name
  | none => .error (.invalidFileName shown)

def entryName (m : Migration) : EntryName :=
  Text.Utf8.encode m.fileName.toList

def text (m : Migration) (source : Except FileError String) : Except MigrationError String :=
  source.mapError (.file m.path)

/-- What is run to apply the migration. -/
def upText (m : Migration) (source : Except FileError String) : Except MigrationError String :=
  (m.text source).map Section.upBody

/-- What is run to take the migration back.  A migration without anything to run cannot be taken
back. -/
def downText (m : Migration) (source : Except FileError String) : Except MigrationError String := do
  match Section.downBody? (← m.text source) with
  | some body => return body
  | none => throw (.missingDown m.version m.name)

end Migration

end SchemaKit
