import SchemaKit.Folder
import SchemaKit.Path

/-!
# File trees

A tree of directories, files and symbolic links, held as a list of nodes with their paths from the
root.  `FileTree.locate` follows a path through links and dots to the place it leads to, and
`FileTree.place` stops at the last name of a path, link or not; all else is said in terms of the
places.  Nothing lies above the root.
-/

namespace SchemaKit

/-- What stands at a place of a tree. -/
inductive Node
  | file (content : Content)
  | directory
  | link (target : List UInt8)
deriving DecidableEq

/-- The names that lead from the root to a node. -/
abbrev NodePath := List EntryName

/-- A tree of directories, files and links. -/
structure FileTree where
  nodes : List (NodePath × Node)

namespace FileTree

def empty : FileTree := ⟨[([], .directory)]⟩

/-- The name by which a directory calls itself. -/
def self : EntryName := [Path.dotByte]

/-- The name by which a directory calls the one above it. -/
def parent : EntryName := [Path.dotByte, Path.dotByte]

/-- The names in a path between its slashes. -/
def names (path : List UInt8) : List EntryName :=
  path.splitOn Path.slashByte

/-- The node at a resolved path. -/
def node? (t : FileTree) (path : NodePath) : Option Node :=
  (t.nodes.find? fun n => n.1 = path).map Prod.snd

/-- Whether a path begins at the top and so leads out of the tree. -/
def leadsOut (path : List UInt8) : Bool :=
  path.head? = some Path.slashByte

/-- The longest path below the root, in bytes: what the limit of 4096 leaves when the path of the
root and the end of the text are taken off. -/
def maxPathLength : Nat := 4079

/-- Checks that a path can be followed at all. -/
def checkPath (path : List UInt8) : Except FileError Unit :=
  if path.contains 0 then .error .zeroByte
  else if maxPathLength < path.length then .error .nameTooLong
  else if leadsOut path then .error .notFound
  else .ok ()

/-- Follows names from a directory on, through at most the given number of links.  The last name
need not be there yet. -/
def walk (t : FileTree) (links : Nat) (here : NodePath) (todo : List EntryName) :
    Except FileError NodePath :=
  match todo with
  | [] => .ok here
  | name :: rest =>
    if name = [] ∨ name = self then t.walk links here rest
    else if name = parent then
      if here = [] then .error .notFound else t.walk links here.dropLast rest
    else if Folder.maxNameLength < name.length then .error .nameTooLong
    else
      match t.node? (here ++ [name]) with
      | none => if rest = [] then .ok (here ++ [name]) else .error .notFound
      | some .directory => t.walk links (here ++ [name]) rest
      | some (.file _) => if rest = [] then .ok (here ++ [name]) else .error .notADirectory
      | some (.link target) =>
        match links with
        | 0 => .error .tooManyLinks
        | links + 1 =>
          if leadsOut target then .error .notFound
          else t.walk links here (names target ++ rest)
-- a link may bring more names than it takes away, but there is one link less to follow
termination_by (links, todo.length)

/-- The most links that are followed on one path. -/
def maxLinks : Nat := 40

/-- Follows names from the root on. -/
def walkDown (t : FileTree) (todo : List EntryName) : Except FileError NodePath :=
  if t.node? [] = none then .error .notFound else t.walk maxLinks [] todo

/-- The place a path leads to, links followed.  Nothing need be there yet. -/
def locate (t : FileTree) (path : List UInt8) : Except FileError NodePath := do
  checkPath path
  t.walkDown (names path)

/-- What a path leads to, links followed. -/
def get (t : FileTree) (path : List UInt8) : Except FileError (NodePath × Node) := do
  let p ← t.locate path
  match t.node? p with
  | some node => return (p, node)
  | none => throw .notFound

/-- What a path leads to, as an entry of a directory. -/
def entry (t : FileTree) (path : List UInt8) : Entry :=
  match t.get path with
  | .ok (_, .file content) => .file content
  | .ok (_, .directory) => .directory
  | _ => .broken

def children (t : FileTree) (p : NodePath) : List EntryName :=
  t.nodes.filterMap fun n =>
    match n.1.getLast? with
    | some name => if n.1.dropLast = p then some name else none
    | none => none

/-- The listing of the directory a path leads to. -/
def list (t : FileTree) (path : List UInt8) : Folder := do
  match ← t.get path with
  | (p, .directory) =>
    return (t.children p).map fun name => (name, t.entry (Path.joinBytes path name))
  | _ => throw .notADirectory

def read (t : FileTree) (path : List UInt8) : Except FileError String := do
  match ← t.get path with
  | (_, .file content) => content.read
  | _ => throw .isADirectory

/-- The place a path names: its last name in the directory it leads through, not followed if it is
a link.  A path without names is the root's, and one that ends in dots names no place. -/
def place (t : FileTree) (path : List UInt8) : Except FileError NodePath := do
  checkPath path
  let name := (names path).getLastD []
  if path = [] then return []
  if name = [] || name = self || name = parent then throw .notFound
  let p ← t.walkDown (names path).dropLast
  match t.node? p with
  | some .directory =>
    if Folder.maxNameLength < name.length then throw .nameTooLong
    return p ++ [name]
  | none => throw .notFound
  | _ => throw .notADirectory

def dropSlashes (path : List UInt8) : List UInt8 :=
  (path.reverse.dropWhile (· == Path.slashByte)).reverse

/-- Puts a node at a place, over one that stands there. -/
def put (t : FileTree) (p : NodePath) (node : Node) : FileTree :=
  ⟨(t.nodes.filter fun n => n.1 ≠ p) ++ [(p, node)]⟩

/-- Takes out a place and all below it. -/
def erase (t : FileTree) (p : NodePath) : FileTree :=
  ⟨t.nodes.filter fun n => !p.isPrefixOf n.1⟩

/-- Takes out all below a place. -/
def clear (t : FileTree) (p : NodePath) : FileTree :=
  ⟨t.nodes.filter fun n => n.1 = p || !p.isPrefixOf n.1⟩

/-- Writes a file, over one that is there.  A link that leads nowhere yet is followed too. -/
def write (t : FileTree) (path : List UInt8) (content : Content) : Except FileError FileTree := do
  let p ← t.locate path
  if t.node? p = some .directory then throw .isADirectory
  return t.put p (.file content)

/-- Makes a node where there is none.  Slashes may follow the name of a directory, and only a
directory may be the root. -/
def make (t : FileTree) (path : List UInt8) (node : Node) : Except FileError FileTree := do
  let p ← t.place (if node = .directory then dropSlashes path else path)
  match t.node? p with
  | some _ => throw .alreadyExists
  | none => if p = [] && node ≠ .directory then throw .notFound else return t.put p node

def remove (t : FileTree) (path : List UInt8) : Except FileError FileTree := do
  let p ← t.place path
  match t.node? p with
  | none => throw .notFound
  | some .directory => throw .isADirectory
  | some _ => return t.erase p

/-- Removes a directory and all in it, or a link without what it leads to.  A directory whose path
shows only that it is one, by a dot or by a slash behind a link, loses what is in it. -/
def removeAll (t : FileTree) (path : List UInt8) : Except FileError FileTree := do
  let trimmed := dropSlashes path
  match (t.place trimmed).toOption.bind fun p => (t.node? p).map (p, ·) with
  | some (p, .directory) => return t.erase p
  | some (p, .link _) =>
    if trimmed = path then return t.erase p
    -- by the slash behind it the directory is meant that the link leads to
    return t.clear (← t.locate path)
  | some (_, .file _) => throw .notADirectory
  | none =>
    match ← t.get path with
    | (p, .directory) => return t.clear p
    | _ => throw .notADirectory

end FileTree

end SchemaKit
