/-!
# String literals

`quoteLiteral` writes a text as a literal: in single quotes, with every quote of the text written
twice.  `scanLiteral` reads a literal at the head of a longer text and hands back what follows it.
-/

namespace SchemaKit.Sql

/-- A text with every single quote written twice. -/
def doubleQuotes : List Char → List Char
  | [] => []
  | c :: cs => if c = '\'' then '\'' :: '\'' :: doubleQuotes cs else c :: doubleQuotes cs

/-- A text as a string literal. -/
def quoteLiteral (s : String) : String :=
  String.ofList ('\'' :: (doubleQuotes s.toList ++ ['\'']))

/-- Reads the inside of a literal up to the first quote that stands alone, and hands back what it
reads and what follows.  There is nothing to read where no such quote comes. -/
def scanLiteralBody : List Char → Option (List Char × List Char)
  | [] => none
  | '\'' :: '\'' :: cs => (scanLiteralBody cs).map fun r => ('\'' :: r.1, r.2)
  | c :: cs =>
    if c = '\'' then some ([], cs)
    else (scanLiteralBody cs).map fun r => (c :: r.1, r.2)

/-- Reads a string literal at the head of a text. -/
def scanLiteral : List Char → Option (List Char × List Char)
  | '\'' :: cs => scanLiteralBody cs
  | _ => none

@[simp] theorem doubleQuotes_nil : doubleQuotes [] = [] := rfl

theorem doubleQuotes_cons (c : Char) (cs : List Char) :
    doubleQuotes (c :: cs) = doubleQuotes [c] ++ doubleQuotes cs := by
  by_cases h : c = '\'' <;> simp [doubleQuotes, h]

end SchemaKit.Sql
