import SchemaKit.Source.Quoted
import SchemaKit.Source.Token
import SchemaKit.Text.Blank
import SchemaKit.Text.WordPart

/-!
# From text to tokens

`scan` turns a source text into its tokens, or into nothing where the text is none: a bracket
without its partner, a quote without an end, a number out of its base, a character that belongs
nowhere.  Blanks and comments stand between tokens and are dropped, except for the comments that
document what follows, which are attributes in another spelling.
-/

namespace SchemaKit.Source

/-! ### Words -/

/-- The word that characters begin with, and what follows. -/
def word? : List Char → Option (List Char × List Char)
  | c :: cs =>
    if Text.isWordStart c then
      some (c :: cs.takeWhile Text.isWordPart, cs.dropWhile Text.isWordPart)
    else none
  | [] => none

/-- The words that may not be raw. -/
def neverRaw : List String :=
  ["_", "super", "self", "Self", "crate"]

/-- The word, raw or not, that characters begin with, and what follows.  A raw word keeps its
mark. -/
def anyWord? : List Char → Option (String × List Char)
  | 'r' :: '#' :: cs => do
    let (w, rest) ← word? cs
    if neverRaw.contains (String.ofList w) then none
    else some (String.ofList ('r' :: '#' :: w), rest)
  | cs => (word? cs).map fun p => (String.ofList p.1, p.2)

/-- The beginnings of literals that would otherwise read as words. -/
def literalStarts : List String :=
  ["r\"", "r#\"", "r##", "b\"", "b'", "br\"", "br#", "c\"", "cr\"", "cr#"]

/-- The word that characters begin with, unless they begin as a literal does. -/
def wordToken? (cs : List Char) : Option (String × List Char) :=
  if literalStarts.any fun start => start.toList.isPrefixOf cs then none else anyWord? cs

/-! ### Numbers -/

/-- What follows the digits of a number in a base.  A digit out of the base is an error, a letter
ends the number. -/
def digitsEnd (base : Nat) (seen : Bool) : List Char → Option (List Char)
  | [] => if seen then some [] else none
  | c :: cs =>
    let stop := if seen then some (c :: cs) else none
    if c = '_' then
      if !seen && base = 10 then none else digitsEnd base seen cs
    else
      match hexDigit? c with
      | some d =>
        if d < base then digitsEnd base true cs
        else if c.isDigit then none
        else stop
      | none => stop

/-- What follows the digits of an integer. -/
def integerEnd : List Char → Option (List Char)
  | '0' :: 'x' :: cs => digitsEnd 16 false cs
  | '0' :: 'o' :: cs => digitsEnd 8 false cs
  | '0' :: 'b' :: cs => digitsEnd 2 false cs
  | cs => digitsEnd 10 false cs

/-- What follows an exponent, given what follows its letter.  One sign may stand in front of its
digits. -/
def exponentEnd (signed seen : Bool) : List Char → Option (List Char)
  | [] => if seen then some [] else none
  | c :: cs =>
    if c.isDigit then exponentEnd signed true cs
    else if c = '_' then exponentEnd signed seen cs
    else if seen then some (c :: cs)
    else if (c = '+' || c = '-') && !signed then exponentEnd true seen cs
    else none

/-- What follows a number with a point or an exponent, given what follows its first digit.  Neither
a second point nor a word stands right behind the point. -/
def floatEnd (dotted : Bool) : List Char → Option (List Char)
  | [] => if dotted then some [] else none
  | c :: cs =>
    let stop := if dotted then some (c :: cs) else none
    if c.isDigit || c = '_' then floatEnd dotted cs
    else if c = '.' && !dotted then
      if cs.head?.any fun d => d = '.' || Text.isWordStart d then none else floatEnd true cs
    else if c = 'e' || c = 'E' then
      match exponentEnd false false cs with
      | some rest => some rest
      | none => stop
    else stop

/-- What follows a number and its suffix, and whether there is a suffix.  Right behind them stands
nothing that could continue a word. -/
def suffixEnd (cs : List Char) : Option (Bool × List Char) :=
  let (suffixed, rest) := match word? cs with
    | some (_, rest) => (true, rest)
    | none => (false, cs)
  if rest.head?.any Text.isWordPart then none else some (suffixed, rest)

/-- The number that characters begin with, and what follows. -/
def number? (cs : List Char) : Option (Literal × List Char) :=
  let float := do
    let first ← cs.head?
    if first.isDigit then suffixEnd (← floatEnd false cs.tail) else none
  match float with
  | some (_, rest) => some (.float, rest)
  | none => do
    let (suffixed, rest) ← suffixEnd (← integerEnd cs)
    return (.integer suffixed, rest)

/-! ### Literals -/

/-- What follows the suffix of a quoted literal. -/
def dropSuffix (cs : List Char) : List Char :=
  match word? cs with
  | some (_, rest) => rest
  | none => cs

/-- The quoted literal that characters begin with, and what follows. -/
def quotedLiteral? (cs : List Char) : Option (Literal × List Char) :=
  match cs with
  | '"' :: cs => (quoted .text cs).map fun p => (.text (String.ofList p.1), dropSuffix p.2)
  | 'r' :: cs => (raw .text cs).map fun p => (.text (String.ofList p.1), dropSuffix p.2)
  | 'b' :: '"' :: cs => (quoted .bytes cs).map fun p => (.other, dropSuffix p.2)
  | 'b' :: 'r' :: cs => (raw .bytes cs).map fun p => (.other, dropSuffix p.2)
  | 'c' :: '"' :: cs => (quoted .terminated cs).map fun p => (.other, dropSuffix p.2)
  | 'c' :: 'r' :: cs => (raw .terminated cs).map fun p => (.other, dropSuffix p.2)
  | 'b' :: '\'' :: cs => (single .bytes cs).map fun rest => (.other, dropSuffix rest)
  | '\'' :: cs => (single .text cs).map fun rest => (.other, dropSuffix rest)
  | _ => none

/-- The literal that characters begin with, and what follows. -/
def literalToken? (cs : List Char) : Option (Literal × List Char) :=
  match quotedLiteral? cs with
  | some found => some found
  | none => number? cs

/-! ### Marks -/

def marks : List Char :=
  "~!@#$%^&*-=+|;:,<.>/?'".toList

/-- The mark that characters begin with, and what follows.  A slash that begins a comment is
none. -/
def mark? : List Char → Option (Char × List Char)
  | '/' :: '/' :: _ => none
  | '/' :: '*' :: _ => none
  | c :: cs => if marks.contains c then some (c, cs) else none
  | [] => none

/-- The mark that characters begin with, as a token, and what follows.  An apostrophe stands in
front of a word that no apostrophe ends. -/
def markToken? (cs : List Char) : Option (Token × List Char) := do
  let (c, rest) ← mark? cs
  if c = '\'' then
    let (word, after) ← anyWord? rest
    if after.head? = some '\'' || (after.head? = some '#' && !word.startsWith "r#") then none
    else some (.mark c true, rest)
  else some (.mark c (mark? rest).isSome, rest)

/-- The token, other than a group, that characters begin with, and what follows. -/
def leaf? (cs : List Char) : Option (Token × List Char) :=
  match literalToken? cs with
  | some (v, rest) => some (.literal v, rest)
  | none =>
    match markToken? cs with
    | some found => some found
    | none => (wordToken? cs).map fun p => (.word p.1, p.2)

/-! ### Comments -/

/-- The rest of a line, and what follows it from the line feed on.  A carriage return in front of
the line feed belongs to neither. -/
def line : List Char → List Char × List Char
  | [] => ([], [])
  | '\n' :: cs => ([], '\n' :: cs)
  | '\r' :: '\n' :: cs => ([], '\n' :: cs)
  | c :: cs => (c :: (line cs).1, (line cs).2)

/-- The text of a comment up to the mark that closes it, and what follows that mark.  Comments
nest. -/
def block (depth : Nat) : List Char → Option (List Char × List Char)
  | [] => none
  | '*' :: '/' :: cs =>
    match depth with
    | 0 => some ([], cs)
    | d + 1 => (block d cs).map fun p => ('*' :: '/' :: p.1, p.2)
  | '/' :: '*' :: cs => (block (depth + 1) cs).map fun p => ('/' :: '*' :: p.1, p.2)
  | c :: cs => (block depth cs).map fun p => (c :: p.1, p.2)

/-- Whether every carriage return stands in front of a line feed. -/
def hasWholeBreaks : List Char → Bool
  | '\r' :: '\n' :: cs => hasWholeBreaks cs
  | '\r' :: _ => false
  | _ :: cs => hasWholeBreaks cs
  | [] => true

/-- The attribute that a comment stands for, the last token first.  An inner comment documents what
it stands in. -/
def docTokens (inner : Bool) (text : List Char) : List Token :=
  let body := [.word "doc", .mark '=' false, .literal (.text (String.ofList text))]
  .group .bracket body :: if inner then [.mark '!' false, .mark '#' false] else [.mark '#' false]

/-- What a comment leaves behind, the last token first, and what follows it. -/
structure Comment where
  tokens : List Token
  rest : List Char

def documenting (inner : Bool) (text rest : List Char) : Option Comment :=
  if hasWholeBreaks text then some ⟨docTokens inner text, rest⟩ else none

/-- A comment, given the characters from its first slash on. -/
def comment? : List Char → Option Comment
  -- more than three slashes, or more than two asterisks, document nothing
  | '/' :: '/' :: '/' :: '/' :: cs => some ⟨[], (line cs).2⟩
  | '/' :: '/' :: '/' :: cs => documenting false (line cs).1 (line cs).2
  | '/' :: '/' :: '!' :: cs => documenting true (line cs).1 (line cs).2
  | '/' :: '/' :: cs => some ⟨[], (line cs).2⟩
  -- closed at once, so that nothing stands in it
  | '/' :: '*' :: '*' :: '/' :: cs => some ⟨[], cs⟩
  | '/' :: '*' :: '*' :: '*' :: cs => (block 0 ('*' :: '*' :: cs)).map fun p => ⟨[], p.2⟩
  | '/' :: '*' :: '*' :: cs =>
    (block 0 ('*' :: cs)).bind fun p => documenting false (p.1.drop 1) p.2
  | '/' :: '*' :: '!' :: cs =>
    (block 0 ('!' :: cs)).bind fun p => documenting true (p.1.drop 1) p.2
  | '/' :: '*' :: cs => (block 0 cs).map fun p => ⟨[], p.2⟩
  | _ => none

/-- Whether characters begin with a comment, well-formed or not. -/
def startsComment : List Char → Bool
  | '/' :: '/' :: _ => true
  | '/' :: '*' :: _ => true
  | _ => false

/-! ### Groups -/

/-- A character between tokens that means nothing.  The two direction marks are some. -/
def isGap (c : Char) : Bool :=
  Text.isBlank c || c = '\u200e' || c = '\u200f'

/-- The group that a bracket opens. -/
def opening? : Char → Option Delimiter
  | '(' => some .parenthesis
  | '[' => some .bracket
  | '\x7b' => some .brace
  | _ => none

/-- The group that a bracket closes. -/
def closing? : Char → Option Delimiter
  | ')' => some .parenthesis
  | ']' => some .bracket
  | '\x7d' => some .brace
  | _ => none

/-- A group that is not closed yet, with the tokens in front of it, the last token first. -/
structure OpenGroup where
  delimiter : Delimiter
  before : List Token

/-- The tokens of the characters, in at most the given number of steps.  `groups` are the open
groups, the innermost first, and `done` are the tokens in the innermost so far, the last token
first. -/
def scanWithin : Nat → List OpenGroup → List Token → List Char → Option (List Token)
  | 0, _, _, _ => none
  | _ + 1, [], done, [] => some done.reverse
  -- a group is still open at the end
  | _ + 1, _ :: _, _, [] => none
  | n + 1, groups, done, c :: cs =>
    if isGap c then scanWithin n groups done cs
    else if startsComment (c :: cs) then
      match comment? (c :: cs) with
      | some found => scanWithin n groups (found.tokens ++ done) found.rest
      | none => none
    else
      match opening? c, closing? c, groups with
      | some d, _, _ => scanWithin n (⟨d, done⟩ :: groups) [] cs
      | none, some d, g :: outer =>
        if g.delimiter = d then scanWithin n outer (.group d done.reverse :: g.before) cs
        else none
      | none, some _, [] => none
      | none, none, _ =>
        match leaf? (c :: cs) with
        | some (t, rest) => scanWithin n groups (t :: done) rest
        | none => none

/-- The tokens of a text.  A byte order mark in front of it does not count. -/
def scan (text : String) : Option (List Token) :=
  let cs := text.toList
  let cs := if cs.head? = some '\ufeff' then cs.drop 1 else cs
  scanWithin (cs.length + 1) [] [] cs

end SchemaKit.Source
