import SchemaKit.Text.Padding

/-!
# Dates and times

Calendar dates and moments with nanoseconds, and their text after RFC 3339: the fraction of a second
is left out when it is zero and otherwise has three, six or nine digits, as few as tell it exactly.
-/

namespace SchemaKit

structure Date where
  year : Nat
  month : Nat
  day : Nat
deriving DecidableEq

/-- A moment, to the nanosecond. -/
structure Timestamp where
  date : Date
  hour : Nat
  minute : Nat
  second : Nat
  nanosecond : Nat
deriving DecidableEq

def Date.chars (d : Date) : List Char :=
  Text.zeroPad 4 d.year ++ '-' :: Text.zeroPad 2 d.month ++ '-' :: Text.zeroPad 2 d.day

namespace Timestamp

/-- The text of a moment up to the whole second. -/
def secondsChars (t : Timestamp) : List Char :=
  t.date.chars ++ 'T' :: Text.zeroPad 2 t.hour ++ ':' :: Text.zeroPad 2 t.minute ++
    ':' :: Text.zeroPad 2 t.second

/-- The fraction of a second, in as few groups of three digits as tell it exactly. -/
def fractionChars (nanosecond : Nat) : List Char :=
  if nanosecond = 0 then []
  else if nanosecond % 1000000 = 0 then '.' :: Text.zeroPad 3 (nanosecond / 1000000)
  else if nanosecond % 1000 = 0 then '.' :: Text.zeroPad 6 (nanosecond / 1000)
  else '.' :: Text.zeroPad 9 nanosecond

/-- The text of a moment after RFC 3339, with the given name of the zone at its end. -/
def rfc3339 (zone : String) (t : Timestamp) : String :=
  String.ofList (t.secondsChars ++ fractionChars t.nanosecond) ++ zone

end Timestamp

end SchemaKit
