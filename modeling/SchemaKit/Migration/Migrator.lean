import SchemaKit.Job
import SchemaKit.Migration.File

/-!
# Migrators

A migrator applies and takes back the migrations of one directory and records them in one tracking
table.  It keeps nothing: every call lists the directory and reads the table anew.  Each migration
runs in a transaction of its own together with the change of its record, and the first failure ends
the run.
-/

namespace SchemaKit

/-- The migrations of a directory and the table that records them. -/
structure Migrator where
  directory : String
  table : TrackingTable := .standard

/-- The key under which callers that migrate one database keep out of each other's way, unless they
agree on another. -/
def defaultLockKey : String := "stepwise_migrations"

structure MigrationStatus where
  applied : List Applied
  pending : List Migration

namespace Migrator

/-- A job that may end in a migration error. -/
abbrev Attempt (α : Type) := ExceptT MigrationError Job α

/-- What was decided without the store. -/
def decided {α : Type} (r : Except MigrationError α) : Attempt α :=
  ExceptT.mk (.done r)

def report (e : Event) : Attempt Unit :=
  ExceptT.lift (Job.tell e)

/-- The migrator of a directory, which has to be there, and of the table of the given name or else
the usual one. -/
def ofDirectory (directory : String) (folder : Folder) (table : Option String) :
    Except MigrationError Migrator := do
  if let .error _ := folder then throw (.directoryNotFound directory)
  match table with
  | none => return { directory }
  | some name =>
    return { directory, table := ← (TrackingTable.ofName name).mapError .invalidTable }

/-! ### Reading the directory -/

/-- Whether a name has the extension of migrations: something in front of its last dot, and the
three letters behind it. -/
def hasExtension (name : EntryName) : Bool :=
  (Text.Utf8.encode FileName.ending).isSuffixOf name && FileName.ending.length < name.length

/-- The names of the files with the extension of migrations, in the order of their bytes. -/
def candidates (folder : Folder) : List EntryName :=
  ((folder.entries.filter fun e => hasExtension e.1 && e.2.isFile).map Prod.fst).mergeSort
    fun a b => decide (a ≤ b)

def entryPath (m : Migrator) (name : EntryName) : String :=
  Path.join m.directory (Text.Utf8.toStringLossy name)

def ofEntry (m : Migrator) (name : EntryName) : Except MigrationError Migration :=
  Migration.ofEntry (m.entryPath name) name

/-- The migrations among the entries of the given names, with a report of each that is none. -/
def readEntries (m : Migrator) : List EntryName → Job (List Migration)
  | [] => .done []
  | name :: names =>
    match m.ofEntry name with
    | .ok migration => (m.readEntries names).bind fun rest => .done (migration :: rest)
    | .error why => .report (.fileSkipped (m.entryPath name) why.message) (m.readEntries names)

/-- The migrations of the directory in ascending order of their versions, those of one version in
the order of their file names. -/
def discover (m : Migrator) (folder : Folder) : Attempt (List Migration) := do
  match folder with
  | .error why => throw (.file m.directory why)
  | .ok _ => do
    let found ← ExceptT.lift (m.readEntries (candidates folder))
    return found.mergeSort fun a b => decide (a.version ≤ b.version)

/-! ### Reading the table -/

def trackingError (why : StoreError) : MigrationError :=
  .tracking (.store why)

def ensure (m : Migrator) : Attempt Unit := do
  let _ ← Job.query trackingError m.table.create

/-- Every applied migration, in ascending order. -/
def applied (m : Migrator) : Attempt (List Applied) := do
  m.ensure
  let rows ← Job.query trackingError m.table.select
  decided ((rows.mapM Applied.ofRow).mapError fun why => .tracking (.record why))

def appliedVersions (m : Migrator) : Attempt (List Version) := do
  return (← m.applied).map Applied.version

/-- The version of the last applied migration, and zero if there is none. -/
def currentVersion (m : Migrator) : Attempt Version := do
  return ((← m.applied).getLast?.map Applied.version).getD 0

/-- Whether a version is not beyond a target. -/
def within (target : Option Version) (version : Version) : Bool :=
  match target with
  | some t => decide (version ≤ t)
  | none => true

/-- The migrations whose versions are not applied and not beyond a target. -/
def notApplied (versions : List Version) (target : Option Version) (found : List Migration) :
    List Migration :=
  found.filter fun x => !versions.contains x.version && within target x.version

/-- The migrations of the directory that are not applied, up to and with a target. -/
def pending (m : Migrator) (folder : Folder) (target : Option Version) :
    Attempt (List Migration) := do
  let versions ← m.appliedVersions
  let found ← m.discover folder
  return notApplied versions target found

def status (m : Migrator) (folder : Folder) : Attempt MigrationStatus := do
  let applied ← m.applied
  let pending ← m.pending folder none
  return ⟨applied, pending⟩

/-! ### Applying -/

def recordVersion (m : Migrator) (version : Version) (name : String) :
    ExceptT StoreError Work Unit := do
  Work.tell (.recording version m.table.name)
  let _ ← Work.query (m.table.record version name)

def forgetVersion (m : Migrator) (version : Version) : ExceptT StoreError Work Unit := do
  Work.tell (.removing version m.table.name)
  let _ ← Work.query (m.table.forget version)

/-- What is done in the transaction of a migration: its text, if there is any, and its record. -/
def applyWork (m : Migrator) (x : Migration) (sql : String) : ExceptT StoreError Work Unit := do
  if sql = "" then Work.tell (.emptyUp x.label)
  else
    let _ ← Work.query ⟨sql, []⟩
  m.recordVersion x.version x.name

def apply (m : Migrator) (folder : Folder) (x : Migration) : ExceptT ApplyFault Job Unit := do
  match folder.read x.entryName with
  | .error why => throw (.file x.path why)
  | .ok text => Job.transaction .store (m.applyWork x (Section.upBody text))

/-- Applies migrations in order, after those already done in the same run. -/
def applyAll (m : Migrator) (folder : Folder) (finished : List Migration) :
    List Migration → Attempt (List Migration)
  | [] => return finished
  | x :: rest => do
    report (.applying x.label)
    match ← ExceptT.lift (m.apply folder x).run with
    | .error why =>
      report (.applyFailed x.label why.message)
      -- what is finished stays applied, so the error names it
      throw (.applyFailed x.version x.name (finished.map Migration.version) why)
    | .ok () =>
      report (.applied x.label)
      m.applyAll folder (finished ++ [x]) rest

/-- Applies every pending migration up to a target, and gives those it has applied. -/
def migrate (m : Migrator) (folder : Folder) (target : Option Version) :
    Attempt (List Migration) := do
  m.ensure
  let pending ← m.pending folder target
  if pending.isEmpty then
    report (.nothingPending m.directory)
  m.applyAll folder [] pending

/-! ### Taking back -/

/-- A migration to be taken back: its record, its file and what is to be run. -/
structure Step where
  record : Applied
  migration : Migration
  down : String

/-- The step that takes a record back, found among the migrations of the directory. -/
def step (folder : Folder) (found : List Migration) (a : Applied) :
    Except MigrationError Step := do
  match found.find? fun x => x.version = a.version with
  | none => throw (.missingFile a.version)
  | some x => return ⟨a, x, ← x.downText (folder.read x.entryName)⟩

/-- What is done in the transaction of a step: what takes the migration back, and its record. -/
def revokeWork (m : Migrator) (x : Migration) (down : String) : ExceptT StoreError Work Unit := do
  let _ ← Work.query ⟨down, []⟩
  m.forgetVersion x.version

/-- Takes steps in order, after those already taken in the same run. -/
def revokeAll (m : Migrator) (finished : List Applied) : List Step → Attempt (List Applied)
  | [] => return finished
  | s :: rest => do
    report (.revoking s.migration.label)
    match ← ExceptT.lift (Job.transaction id (m.revokeWork s.migration s.down)).run with
    | .error why =>
      report (.revokeFailed s.migration.label why.message)
      throw (.rollbackFailed s.migration.version s.migration.name
        (finished.map Applied.version) why)
    | .ok () =>
      report (.revoked s.migration.label)
      m.revokeAll (finished ++ [s.record]) rest

/-- Takes back the given number of applied migrations, newest first, and gives their records. -/
def rollback (m : Migrator) (folder : Folder) (steps : Nat) : Attempt (List Applied) := do
  let applied ← m.applied
  let found ← m.discover folder
  -- what is to be run is found for all of them before anything is run
  let plan ← decided ((applied.reverse.take steps).mapM (step folder found))
  m.revokeAll [] plan

/-! ### Creating -/

def template (name createdAt : String) : String :=
  "-- Migration: " ++ name ++ "\n-- Created: " ++ createdAt ++
    "\n\n-- UP\n-- Write your migration SQL here\n\n-- DOWN\n" ++
    "-- Write your rollback SQL here (optional)\n"

structure NewFile where
  path : String
  name : EntryName
  text : String

/-- The next migration of a directory: one above its highest version, under a name made of the given
text. -/
def draft (m : Migrator) (folder : Folder) (name : String) (now : Timestamp) :
    Attempt NewFile := do
  let slug := FileName.slug name
  if slug = "" then throw (.invalidName name)
  let found ← m.discover folder
  -- without any migrations the next version is 1
  let highest := (found.map Migration.version).foldl max 0
  if highest.toInt = FileName.maxVersion then throw .versionOverflow
  let fileName := FileName.fileName (highest + 1) slug
  return ⟨Path.join m.directory fileName, Text.Utf8.encode fileName.toList,
    template slug (now.rfc3339 "+00:00")⟩

/-- Writes the next migration of a directory in the given way, and gives the file and what came of
writing it. -/
def create {α : Type} (m : Migrator) (write : NewFile → Except FileError α) (folder : Folder)
    (name : String) (now : Timestamp) : Attempt (NewFile × α) := do
  let file ← m.draft folder name now
  match write file with
  | .error why => throw (.file file.path why)
  | .ok written =>
    report (.fileCreated file.path)
    return (file, written)

def writeInto (folder : Folder) (file : NewFile) : Except FileError Folder :=
  folder.create file.name file.text

end Migrator

end SchemaKit
