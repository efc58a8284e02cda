import SchemaKit.Sql.Rejection
import SchemaKit.Text.Blank
import SchemaKit.Text.Casing

/-!
# Intervals

A length of time as it is written after the keyword INTERVAL: digits, blanks and a unit, such as
`7 days`.  `check` hands the text back without the blanks around it.  Case is ignored as `Text.fold`
ignores it.
-/

namespace SchemaKit.Sql.Interval

/-- The units of time, in lower case and in the singular. -/
def units : List (List Char) :=
  ["second", "minute", "hour", "day", "week", "month", "year"].map String.toList

/-- A unit of time, in any case, with or without the s of the plural. -/
def isUnit (word : List Char) : Bool :=
  units.any fun u => word.map Text.fold == u || word.map Text.fold == u ++ ['s']

/-- One or more digits, one or more blanks, and a unit. -/
def isInterval (cs : List Char) : Bool :=
  let rest := cs.dropWhile Char.isDigit
  !(cs.takeWhile Char.isDigit).isEmpty && !(rest.takeWhile Text.isBlank).isEmpty &&
    isUnit (rest.dropWhile Text.isBlank)

/-- Hands an interval back without the blanks around it.  A refusal shows the text as it came. -/
def check (text : String) : Except Rejection String :=
  if text = "" then .error .emptyInterval
  else if isInterval (Text.trimChars text.toList) then .ok (Text.trim text)
  else .error (.invalidInterval text)

end SchemaKit.Sql.Interval
