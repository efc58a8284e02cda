import SchemaKit.Connection.Percent

/-!
# Form coding

A query as a list of names and values: pairs between ampersands, name and value apart at the first
equals sign, plus signs for blanks, and all else percent-coded.
-/

namespace SchemaKit.Connection.Form

/-- A name or value in its final form. -/
def decode (cs : List Char) : String :=
  Percent.decode (cs.map fun c => if c = '+' then ' ' else c)

/-- A pair in its final form.  A value that is missing is empty. -/
def pair (cs : List Char) : String × String :=
  (decode (cs.takeWhile (· != '=')), decode ((cs.dropWhile (· != '=')).drop 1))

/-- The pairs of a query, in order.  Nothing between two ampersands is no pair. -/
def pairs (query : List Char) : List (String × String) :=
  ((query.splitOn '&').filter fun p => !p.isEmpty).map pair

/-- The value of the first pair of a name. -/
def get? (query : List Char) (name : String) : Option String :=
  ((pairs query).find? fun p => p.1 = name).map Prod.snd

end SchemaKit.Connection.Form
