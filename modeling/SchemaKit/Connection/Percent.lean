import SchemaKit.Text.Utf8

/-!
# Percent coding

A byte may be written as a percent sign and two hexadecimal digits.  `encode` writes every byte so
that is not an ASCII letter or digit, `decodeBytes` undoes it and leaves alone a percent sign
without two digits, and `decode` reads the bytes as text, whatever they are.
-/

namespace SchemaKit.Connection.Percent

/-- The character of an upper-case hexadecimal digit. -/
def hexDigit (n : UInt8) : Char :=
  (Nat.digitChar n.toNat).toUpper

/-- The value of a hexadecimal digit in either case. -/
def hexValue? (b : UInt8) : Option UInt8 :=
  if 0x30 ≤ b && b ≤ 0x39 then some (b - 0x30)
  else if 0x41 ≤ b && b ≤ 0x46 then some (b - 0x37)
  else if 0x61 ≤ b && b ≤ 0x66 then some (b - 0x57)
  else none

/-- A byte as a percent sign and two digits. -/
def escapeByte (b : UInt8) : List Char :=
  ['%', hexDigit (b >>> 4), hexDigit (b &&& 0x0F)]

/-- A character as it stands in an encoded text: by itself if it is a letter or digit of ASCII. -/
def encodeChar (c : Char) : List Char :=
  if c.isAlphanum then [c] else (String.utf8EncodeChar c).flatMap escapeByte

/-- A text with everything escaped but the letters and digits of ASCII. -/
def encode (s : String) : String :=
  String.ofList (s.toList.flatMap encodeChar)

/-- The bytes that an encoded text stands for. -/
def decodeBytes : List UInt8 → List UInt8
  | [] => []
  | [a] => [a]
  | [a, b] => [a, b]
  | a :: b :: c :: rest =>
    match if a = 0x25 then hexValue? b else none, hexValue? c with
    | some hi, some lo => (hi * 16 + lo) :: decodeBytes rest
    | _, _ => a :: decodeBytes (b :: c :: rest)
termination_by bytes => bytes.length

/-- The text that an encoded text stands for. -/
def decode (cs : List Char) : String :=
  Text.Utf8.toStringLossy (decodeBytes (Text.Utf8.encode cs))

end SchemaKit.Connection.Percent
