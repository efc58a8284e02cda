import SchemaKit.Text.Extending
import SchemaKit.Text.Printable

/-!
# Quoted text

`quote s` shows a text so that every character of it can be seen: in double quotes, with a backslash
before quotes and backslashes, the usual letters for tab, line feed, carriage return and NUL, and
the code point of anything that would not show or would lean on its neighbour.
-/

namespace SchemaKit.Text

/-- The code point of a character in braces, in lower-case hexadecimal digits. -/
def codePoint (c : Char) : List Char :=
  ['\\', 'u', '\x7b'] ++ Nat.toDigits 16 c.toNat ++ ['\x7d']

/-- One character as it stands between the quotes. -/
def escape (c : Char) : List Char :=
  if c = '\x00' then ['\\', '0']
  else if c = '\t' then ['\\', 't']
  else if c = '\n' then ['\\', 'n']
  else if c = '\r' then ['\\', 'r']
  else if c = '"' then ['\\', '"']
  else if c = '\\' then ['\\', '\\']
  else if isExtending c || isUnprintable c then codePoint c
  else [c]

/-- A text in double quotes with all that does not show escaped. -/
def quote (s : String) : String :=
  String.ofList ('"' :: (s.toList.flatMap escape ++ ['"']))

end SchemaKit.Text
