import SchemaKit.Sql.Rejection
import SchemaKit.Text.Casing

/-!
# Index methods

The access methods an index can be built with.
-/

namespace SchemaKit.Sql

inductive IndexMethod
  | btree
  | hash
  | gist
  | spgist
  | gin
  | brin
deriving DecidableEq

namespace IndexMethod

/-- The method of an index that names none. -/
def standard : IndexMethod := .btree

/-- The word that stands after USING. -/
def name : IndexMethod → String
  | btree => "btree"
  | hash => "hash"
  | gist => "gist"
  | spgist => "spgist"
  | gin => "gin"
  | brin => "brin"

def all : List IndexMethod :=
  [btree, hash, gist, spgist, gin, brin]

/-- The method of a given name, in any case. -/
def ofName? (text : String) : Option IndexMethod :=
  all.find? fun m => Text.lowerChars text.toList == m.name.toList

/-- The method of a given name, in any case, or the refusal of that name. -/
def check (text : String) : Except Rejection IndexMethod :=
  match ofName? text with
  | some m => .ok m
  | none => .error (.invalidMethod text)

theorem ofName?_name (m : IndexMethod) : ofName? m.name = some m := by
  cases m <;> decide +kernel

end IndexMethod

end SchemaKit.Sql
