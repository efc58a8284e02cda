import SchemaKit.Text.Casing
import SchemaKit.Text.Padding

/-!
# File names of migrations

A migration is a file `NNN_name.sql`.  `parse?` reads the number and the name off such a file name,
`fileName` writes one with at least three digits, and `slug` makes a name out of any text.
-/

namespace SchemaKit

/-- The number of a migration. -/
abbrev Version := Int64

namespace FileName

def maxVersion : Nat := 9223372036854775807

def ending : List Char := ['.', 's', 'q', 'l']

/-- What stands in front of an ending, if a text has it. -/
def dropEnding? (tail cs : List Char) : Option (List Char) :=
  if tail.isSuffixOf cs then some (cs.take (cs.length - tail.length)) else none

/-- The version that digits stand for, if it is not too high. -/
def version? (digits : List Char) : Option Version :=
  let n := Nat.ofDigitChars 10 digits 0
  if digits.isEmpty || maxVersion < n then none else some (Int64.ofNat n)

/-- The name between the underscore and the ending: one or more characters on one line. -/
def name? (cs : List Char) : Option String :=
  match dropEnding? ending cs with
  | some name => if name.isEmpty || name.contains '\n' then none else some (String.ofList name)
  | none => none

/-- Reads a file name of digits, an underscore, a name and the ending. -/
def parse? (file : String) : Option (Version × String) :=
  let cs := file.toList
  match cs.dropWhile Char.isDigit with
  | '_' :: rest =>
    match version? (cs.takeWhile Char.isDigit), name? rest with
    | some version, some name => some (version, name)
    | _, _ => none
  | _ => none

/-- A version with zeros in front up to three characters. -/
def versionText (version : Version) : String :=
  let n := version.toInt
  if n < 0 then "-" ++ String.ofList (Text.zeroPad 2 n.natAbs)
  else String.ofList (Text.zeroPad 3 n.natAbs)

/-- A migration as it is named in messages: its version and its name. -/
def label (version : Version) (name : String) : String :=
  versionText version ++ "_" ++ name

def fileName (version : Version) (name : String) : String :=
  label version name ++ String.ofList ending

/-- A character that stands for itself in a slug. -/
def isSlugChar (c : Char) : Bool :=
  c.isLower || c.isDigit || c == '_'

/-- Characters in lower case, with an underscore for each that a slug cannot hold. -/
def slugChars (cs : List Char) : List Char :=
  (Text.lowerChars cs).map fun c => if isSlugChar c then c else '_'

/-- A text as a name made of lower-case letters, digits and underscores. -/
def slug (text : String) : String :=
  String.ofList (slugChars text.toList)

@[simp] theorem slugChars_append (a b : List Char) :
    slugChars (a ++ b) = slugChars a ++ slugChars b := by
  simp [slugChars]

end FileName

end SchemaKit
