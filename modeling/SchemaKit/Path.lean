/-!
# Paths

Paths as text or as bytes, with slashes between their parts.  `Path.fileName?` and
`Path.entryName?` are the name a path ends in: repeated slashes, a slash at the end and parts that
are a single dot do not count, and a path that ends in the parent of a directory names no file.
-/

namespace SchemaKit.Path

section Letters

variable {α : Type} [DecidableEq α]

/-- The parts of a path that lead somewhere: neither empty nor a single dot. -/
def parts (slash dot : α) (path : List α) : List (List α) :=
  (path.splitOn slash).filter fun p => p ≠ [] && p ≠ [dot]

/-- The last part of a path that leads somewhere, unless it leads up. -/
def lastPart? (slash dot : α) (path : List α) : Option (List α) :=
  (parts slash dot path).getLast?.filter fun p => p ≠ [dot, dot]

/-- A path as seen from a directory.  A path that begins at the root stands for itself. -/
def append (slash : α) (directory path : List α) : List α :=
  if path.head? = some slash then path
  else if directory = [] || directory.getLast? = some slash then directory ++ path
  else directory ++ slash :: path

end Letters

def slashByte : UInt8 := 0x2F

def dotByte : UInt8 := 0x2E

/-- The name of the file a path leads to. -/
def fileName? (path : String) : Option String :=
  (lastPart? '/' '.' path.toList).map String.ofList

/-- The name of the file a path of bytes leads to. -/
def entryName? (path : List UInt8) : Option (List UInt8) :=
  lastPart? slashByte dotByte path

/-- A path as seen from a directory, as text. -/
def join (directory path : String) : String :=
  String.ofList (append '/' directory.toList path.toList)

/-- A path as seen from a directory, in bytes. -/
def joinBytes (directory path : List UInt8) : List UInt8 :=
  append slashByte directory path

end SchemaKit.Path
