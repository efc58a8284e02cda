import SchemaKit.Text.Blank

/-!
# Sections

The text of a migration may be divided by marker lines: two hyphens and the word UP or DOWN, in any
case, with nothing else on the line but spaces and tabs around the word.  A section runs from the
first marker of its kind to the next marker of either kind, and `Section.extract` is its text
without the blanks around it.
-/

namespace SchemaKit

/-- The halves of a migration: what is run to apply it and what is run to take it back. -/
inductive Section
  | up
  | down
deriving DecidableEq

namespace Section

def isPad (c : Char) : Bool :=
  c == ' ' || c == '\t'

/-- Reads the word of a marker in any case, and hands back what follows it. -/
def keyword? : List Char → Option (Section × List Char)
  | a :: b :: c :: d :: rest =>
    if [a, b, c, d].map Char.toUpper = ['D', 'O', 'W', 'N'] then some (down, rest)
    else if [a, b].map Char.toUpper = ['U', 'P'] then some (up, c :: d :: rest)
    else none
  | a :: b :: rest => if [a, b].map Char.toUpper = ['U', 'P'] then some (up, rest) else none
  | _ => none

/-- Whether a line ends here: at the end of the text or before a line feed, with at most one
carriage return in front of it. -/
def atLineEnd : List Char → Bool
  | [] => true
  | ['\r'] => true
  | '\r' :: '\n' :: _ => true
  | c :: _ => c == '\n'

/-- The text from the end of a line on, without the carriage return in front of it. -/
def dropReturn : List Char → List Char
  | '\r' :: rest => rest
  | cs => cs

/-- Reads a marker at the beginning of a line, and hands back the text from the end of that line
on. -/
def marker? : List Char → Option (Section × List Char)
  | '-' :: '-' :: cs =>
    match keyword? (cs.dropWhile isPad) with
    | some (kind, rest) =>
      if atLineEnd (rest.dropWhile isPad) then some (kind, dropReturn (rest.dropWhile isPad))
      else none
    | none => none
  | _ => none

/-- The text behind the first marker of a kind.  The flag tells whether a line begins here. -/
def after? (kind : Section) : Bool → List Char → Option (List Char)
  | _, [] => none
  | lineStart, c :: cs =>
    match if lineStart then marker? (c :: cs) else none with
    | some (k, rest) => if k = kind then some rest else after? kind (c == '\n') cs
    | none => after? kind (c == '\n') cs

/-- The text in front of the next marker of either kind. -/
def before : Bool → List Char → List Char
  | _, [] => []
  | lineStart, c :: cs =>
    if lineStart && (marker? (c :: cs)).isSome then [] else c :: before (c == '\n') cs

/-- The text of a section without the blanks around it, if the text has a marker of its kind. -/
def extract (kind : Section) (text : String) : Option String :=
  (after? kind true text.toList).map fun rest =>
    String.ofList (Text.trimChars (before false rest))

/-- What is run to apply a migration of the given text: its upper section, or all of it. -/
def upBody (text : String) : String :=
  (extract up text).getD text

/-- What is run to take a migration of the given text back, unless there is nothing to run. -/
def downBody? (text : String) : Option String :=
  (extract down text).filter fun body => body ≠ ""

end Section

end SchemaKit
