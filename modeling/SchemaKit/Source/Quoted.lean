/-!
# Quoted literals

The literals between quotes: text, bytes and texts that end in a zero byte, each either with escapes
or raw, and single characters and bytes.  A reader takes the characters behind the opening quote and
gives back what is written and what follows the closing quote, or nothing where the literal is
ill-formed or has no end.
-/

namespace SchemaKit.Source

/-- What stands between quotes.  Bytes are written in ASCII.  A terminated text holds no zero. -/
inductive Quoting
  | text
  | bytes
  | terminated
deriving DecidableEq

/-- Whether a character may stand between quotes as it is. -/
def Quoting.allows (q : Quoting) (c : Char) : Bool :=
  match q with
  | .text => true
  | .bytes => c.toNat < 128
  | .terminated => c ≠ '\x00'

def hexDigit? (c : Char) : Option Nat :=
  if c.isDigit then some (c.toNat - '0'.toNat)
  else if 'a' ≤ c && c ≤ 'f' then some (c.toNat - 'a'.toNat + 10)
  else if 'A' ≤ c && c ≤ 'F' then some (c.toNat - 'A'.toNat + 10)
  else none

/-- The character of a code point. -/
def char? (n : Nat) : Option Char :=
  if n.isValidChar then some (Char.ofNat n) else none

/-! ### Escapes -/

/-- The character that a letter behind a backslash stands for. -/
def shortEscape? : Char → Option Char
  | 'n' => some '\n'
  | 'r' => some '\r'
  | 't' => some '\t'
  | '\\' => some '\\'
  | '\'' => some '\''
  | '"' => some '"'
  | '0' => some '\x00'
  | _ => none

/-- The character with a code of two hexadecimal digits.  In a text it is an ASCII character. -/
def byteEscape? (q : Quoting) (high low : Char) : Option Char := do
  let n := (← hexDigit? high) * 16 + (← hexDigit? low)
  match q with
  | .text => if n < 128 then some (Char.ofNat n) else none
  | .bytes => some (Char.ofNat n)
  | .terminated => if n = 0 then none else some (Char.ofNat n)

/-- The character of a code point of one to six hexadecimal digits, as far as the closing brace.
Underscores may stand behind the first digit. -/
def codePointFrom (value count : Nat) : List Char → Option (Char × List Char)
  | [] => none
  | c :: cs =>
    if c = '\x7d' then
      if count = 0 then none else (char? value).map fun d => (d, cs)
    else if c = '_' then
      if count = 0 then none else codePointFrom value count cs
    else
      match hexDigit? c with
      | some d => if count = 6 then none else codePointFrom (value * 16 + d) (count + 1) cs
      | none => none

/-- The character of an escape, given what follows the backslash. -/
def escape? (q : Quoting) : List Char → Option (Char × List Char)
  | 'x' :: high :: low :: cs => (byteEscape? q high low).map fun c => (c, cs)
  | 'u' :: '\x7b' :: cs => if q = .bytes then none else codePointFrom 0 0 cs
  | c :: cs => (shortEscape? c).map fun d => (d, cs)
  | [] => none

/-- What follows a line break behind a backslash: the blanks after it do not count.  A carriage
return stands in front of a line feed only. -/
def afterBreak : List Char → Option (List Char)
  | '\r' :: '\n' :: cs => afterBreak cs
  | '\r' :: _ => none
  | c :: cs => if c = ' ' || c = '\t' || c = '\n' then afterBreak cs else some (c :: cs)
  | [] => none

/-! ### Texts -/

/-- The characters up to the closing quote, escapes resolved, in at most the given number of
steps. -/
def quotedWithin (q : Quoting) : Nat → List Char → Option (List Char × List Char)
  | 0, _ => none
  | _ + 1, [] => none
  | _ + 1, '"' :: cs => some ([], cs)
  | n + 1, '\r' :: '\n' :: cs => (quotedWithin q n cs).map fun p => ('\n' :: p.1, p.2)
  | _ + 1, '\r' :: _ => none
  | n + 1, '\\' :: c :: cs =>
    -- a backslash at the end of a line goes on with the text on the next
    if c = '\n' || c = '\r' then
      (afterBreak (c :: cs)).bind (quotedWithin q n)
    else
      (escape? q (c :: cs)).bind fun e =>
        if q = .terminated && e.1 = '\x00' then none
        else (quotedWithin q n e.2).map fun p => (e.1 :: p.1, p.2)
  | n + 1, c :: cs =>
    if q.allows c then (quotedWithin q n cs).map fun p => (c :: p.1, p.2) else none

/-- The characters up to the closing quote, escapes resolved, and what follows. -/
def quoted (q : Quoting) (cs : List Char) : Option (List Char × List Char) :=
  quotedWithin q (cs.length + 1) cs

/-- The characters up to a quote with the given number of hash marks behind it. -/
def rawUntil (q : Quoting) (hashes : Nat) : List Char → Option (List Char × List Char)
  | [] => none
  | '\r' :: '\n' :: cs => (rawUntil q hashes cs).map fun p => ('\r' :: '\n' :: p.1, p.2)
  | c :: cs =>
    if c = '"' && cs.take hashes = List.replicate hashes '#' then some ([], cs.drop hashes)
    else if c = '\r' || !q.allows c then none
    else (rawUntil q hashes cs).map fun p => (c :: p.1, p.2)

/-- The most hash marks that a raw literal may be written with. -/
def maxHashes : Nat := 255

/-- A raw literal, from the hash marks in front of its opening quote on. -/
def raw (q : Quoting) (cs : List Char) : Option (List Char × List Char) :=
  let hashes := (cs.takeWhile (· = '#')).length
  match cs.drop hashes with
  | '"' :: rest => if hashes ≤ maxHashes then rawUntil q hashes rest else none
  | _ => none

/-! ### Single characters -/

/-- What follows a single character and the closing apostrophe. -/
def single (q : Quoting) (cs : List Char) : Option (List Char) := do
  let rest ← match cs with
    | '\\' :: cs => (escape? q cs).map Prod.snd
    | c :: cs => if q.allows c then some cs else none
    | [] => none
  match rest with
  | '\'' :: rest => some rest
  | _ => none

end SchemaKit.Source
