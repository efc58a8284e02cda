import SchemaKit.Text.Utf8

/-!
# Folders

A directory as it is listed at one moment: its entries with what they hold, links followed.  Names
are bytes, since a file system takes any bytes but a slash; a file whose contents are not UTF-8 is
there but cannot be read as text.
-/

namespace SchemaKit

/-- Why a file or directory cannot be used. -/
inductive FileError
  | notFound
  | alreadyExists
  | notADirectory
  | isADirectory
  | nameTooLong
  | tooManyLinks
  | zeroByte
  | notText
deriving DecidableEq

def FileError.message : FileError → String
  | .notFound => "No such file or directory (os error 2)"
  | .alreadyExists => "File exists (os error 17)"
  | .notADirectory => "Not a directory (os error 20)"
  | .isADirectory => "Is a directory (os error 21)"
  | .nameTooLong => "File name too long (os error 36)"
  | .tooManyLinks => "Too many levels of symbolic links (os error 40)"
  | .zeroByte => "file name contained an unexpected NUL byte"
  | .notText => "stream did not contain valid UTF-8"

/-- The name of an entry, as bytes. -/
abbrev EntryName := List UInt8

/-- The contents of a file. -/
inductive Content
  | text (s : String)
  | binary (bytes : List UInt8)
deriving DecidableEq

namespace Content

/-- The contents that bytes make: text if they are valid UTF-8. -/
def ofBytes (bytes : List UInt8) : Content :=
  match Text.Utf8.decode? bytes with
  | some s => text s
  | none => binary bytes

def read : Content → Except FileError String
  | text s => .ok s
  | binary _ => .error .notText

end Content

/-- What an entry is, links followed. -/
inductive Entry
  | file (content : Content)
  | directory
  | broken
deriving DecidableEq

namespace Entry

def isFile : Entry → Bool
  | file _ => true
  | _ => false

def read : Entry → Except FileError String
  | file content => content.read
  | directory => .error .isADirectory
  | broken => .error .notFound

end Entry

/-- The listing of a directory, in any order, or the reason why there is none. -/
abbrev Folder := Except FileError (List (EntryName × Entry))

namespace Folder

/-- The entries of a directory, none if it cannot be listed. -/
def entries : Folder → List (EntryName × Entry)
  | .ok es => es
  | .error _ => []

def read (folder : Folder) (name : EntryName) : Except FileError String :=
  match folder with
  | .error e => .error e
  | .ok es =>
    match es.find? fun e => e.1 = name with
    | some e => e.2.read
    | none => .error .notFound

/-- The longest name an entry may have, in bytes. -/
def maxNameLength : Nat := 255

/-- A directory with a new file in it, whose name nothing in it may have yet. -/
def create (folder : Folder) (name : EntryName) (text : String) : Except FileError Folder :=
  match folder with
  | .error e => .error e
  | .ok es =>
    if maxNameLength < name.length then .error .nameTooLong
    else if es.any fun e => e.1 = name then .error .alreadyExists
    else .ok (.ok (es ++ [(name, .file (.text text))]))

end Folder

end SchemaKit
