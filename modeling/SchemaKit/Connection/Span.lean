import SchemaKit.Text.Padding

/-!
# Spans of time

A span is shown in the largest unit of which it holds at least one, with as many decimals as tell it
exactly.
-/

namespace SchemaKit.Connection.Span

/-- A number of units with its fraction, without zeros at its end. -/
def decimal (width whole fraction : Nat) : List Char :=
  let digits := ((Text.zeroPad width fraction).reverse.dropWhile (· = '0')).reverse
  Nat.toDigits 10 whole ++ if digits.isEmpty then [] else '.' :: digits

/-- A span of nanoseconds. -/
def text (ns : Nat) : String :=
  if 1000000000 ≤ ns then String.ofList (decimal 9 (ns / 1000000000) (ns % 1000000000)) ++ "s"
  else if 1000000 ≤ ns then String.ofList (decimal 6 (ns / 1000000) (ns % 1000000)) ++ "ms"
  else if 1000 ≤ ns then String.ofList (decimal 3 (ns / 1000) (ns % 1000)) ++ "µs"
  else String.ofList (Nat.toDigits 10 ns) ++ "ns"

end SchemaKit.Connection.Span
