/-!
# UTF-8

`encode` and the two readings of bytes as text.  `decode?` takes valid UTF-8 only.  `decodeLossy`
takes any bytes: an ill-formed stretch is read as one replacement character, where a stretch is the
longest part that could have begun a character, and at least one byte.
-/

namespace SchemaKit.Text.Utf8

def encode (cs : List Char) : List UInt8 :=
  cs.flatMap String.utf8EncodeChar

@[simp] theorem encode_nil : encode [] = [] := rfl

@[simp] theorem encode_append (a b : List Char) : encode (a ++ b) = encode a ++ encode b := by
  simp [encode]

/-- The text that bytes stand for, if they are valid UTF-8. -/
def decode? (bytes : List UInt8) : Option String :=
  String.fromUTF8? ⟨bytes.toArray⟩

/-- The character at the head of some bytes, if a whole one stands there. -/
def head? (bytes : List UInt8) : Option Char :=
  ByteArray.utf8DecodeChar? ⟨(bytes.take 4).toArray⟩ 0

/-- A byte that may stand inside a character but not at its start. -/
def isContinuation (b : UInt8) : Bool :=
  0x80 ≤ b && b ≤ 0xBF

/-- The bytes that may follow a first byte: none for a byte that begins no longer character. -/
def secondRange (first : UInt8) : Option (UInt8 × UInt8) :=
  if first == 0xE0 then some (0xA0, 0xBF)
  else if first == 0xED then some (0x80, 0x9F)
  else if first == 0xF0 then some (0x90, 0xBF)
  else if first == 0xF4 then some (0x80, 0x8F)
  else if (0xE1 ≤ first && first ≤ 0xEF) || (0xF1 ≤ first && first ≤ 0xF3) then some (0x80, 0xBF)
  else none

/-- How many bytes after the first belong to the ill-formed stretch that begins with it. -/
def strayTail (first : UInt8) (rest : List UInt8) : Nat :=
  match secondRange first, rest with
  | some (lo, hi), b :: rest =>
    if lo ≤ b && b ≤ hi then
      match rest with
      | c :: _ => if 0xF0 ≤ first && isContinuation c then 2 else 1
      | [] => 1
    else 0
  | _, _ => 0

/-- Reads any bytes as text, with a replacement character for each ill-formed stretch. -/
def decodeLossy (bytes : List UInt8) : List Char :=
  match bytes with
  | [] => []
  | b :: rest =>
    match head? (b :: rest) with
    | some c => c :: decodeLossy (rest.drop (c.utf8Size - 1))
    | none => '\uFFFD' :: decodeLossy (rest.drop (strayTail b rest))
termination_by bytes.length

/-- The text that bytes show, with a replacement character for each ill-formed stretch. -/
def toStringLossy (bytes : List UInt8) : String :=
  String.ofList (decodeLossy bytes)

end SchemaKit.Text.Utf8
