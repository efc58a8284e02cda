/-!
# IPv6 addresses

Eight pieces of sixteen bits.  `Ipv6.parse?` reads the usual spellings: hexadecimal pieces between
colons, a double colon for a stretch of zeros, and the last two pieces as an IPv4 address.
`Ipv6.text` is the one canonical spelling: lower case, no zeros in front, and a double colon for the
first of the longest stretches of two or more zeros.
-/

namespace SchemaKit.Connection

namespace Ipv6

/-- The value of a hexadecimal digit in either case. -/
def hexValue? (c : Char) : Option Nat :=
  if c.isDigit then some (c.toNat - 48)
  else if 'a' ≤ c && c ≤ 'f' then some (c.toNat - 87)
  else if 'A' ≤ c && c ≤ 'F' then some (c.toNat - 55)
  else none

/-- Reads at most the given number of hexadecimal digits, and hands back what follows them. -/
def hexPrefix : Nat → Nat → List Char → Nat × List Char
  | 0, value, cs => (value, cs)
  | _, value, [] => (value, [])
  | n + 1, value, c :: cs =>
    match hexValue? c with
    | some d => hexPrefix n (value * 16 + d) cs
    | none => (value, c :: cs)

/-- Reads a part of an IPv4 address: at most 255, and no zero in front of other digits. -/
def octet? (cs : List Char) : Option Nat :=
  if cs.isEmpty || !cs.all Char.isDigit || (cs.head? = some '0' && cs ≠ ['0']) then none
  else
    let n := Nat.ofDigitChars 10 cs 0
    if n ≤ 255 then some n else none

/-- Reads an IPv4 address as two pieces. -/
def ipv4? (cs : List Char) : Option (List Nat) :=
  match cs.splitOn '.' with
  | [a, b, c, d] =>
    match octet? a, octet? b, octet? c, octet? d with
    | some a, some b, some c, some d => some [a * 256 + b, c * 256 + d]
    | _, _, _, _ => none
  | _ => none

/-- Fills the stretch of zeros that a double colon stands for.  Without one all pieces must be
there. -/
def fill (pieces : List Nat) : Option Nat → Option (List Nat)
  | some at' => some (pieces.take at' ++ List.replicate (8 - pieces.length) 0 ++ pieces.drop at')
  | none => if pieces.length = 8 then some pieces else none

/-- Reads the rest of an address after some pieces.  The position is that of the double colon, which
stands for at least one zero. -/
def readPieces (fuel : Nat) (pieces : List Nat) (position : Option Nat) (cs : List Char) :
    Option (List Nat) :=
  match fuel, cs with
  | 0, _ => none
  | _, [] => fill pieces position
  | fuel + 1, c :: rest =>
    if pieces.length = 8 then none
    else if c = ':' then
      if position.isSome then none
      else readPieces fuel (pieces ++ [0]) (some (pieces.length + 1)) rest
    else
      let (value, after) := hexPrefix 4 0 (c :: rest)
      match after with
      | [] => fill (pieces ++ [value]) position
      -- the piece was the beginning of an IPv4 address, which is read from there again
      | '.' :: _ =>
        if (hexValue? c).isNone || 6 < pieces.length then none
        else (ipv4? (c :: rest)).bind fun last => fill (pieces ++ last) position
      | [':'] => none
      | ':' :: after => readPieces fuel (pieces ++ [value]) position after
      | _ => none

def parse? (cs : List Char) : Option (List Nat) :=
  match cs with
  | ':' :: ':' :: rest => readPieces (rest.length + 1) [0] (some 1) rest
  | ':' :: _ => none
  | [] => none
  | [_] => none
  | cs => readPieces (cs.length + 1) [] none cs

/-- The number of zeros at the head of some pieces. -/
def zeros (pieces : List Nat) : Nat :=
  (pieces.takeWhile (· = 0)).length

/-- The longest stretch of zeros and its position, the first of several. -/
def longestZeros : List Nat → Nat × Nat
  | [] => (0, 0)
  | p :: rest =>
    let here := zeros (p :: rest)
    let (position, length) := longestZeros rest
    if length ≤ here then (0, here) else (position + 1, length)

def join (pieces : List Nat) : List Char :=
  [':'].intercalate (pieces.map (Nat.toDigits 16))

/-- The canonical spelling. -/
def text (pieces : List Nat) : List Char :=
  let (position, length) := longestZeros pieces
  if length < 2 then join pieces
  else join (pieces.take position) ++ [':', ':'] ++ join (pieces.drop (position + length))

end Ipv6

end SchemaKit.Connection
