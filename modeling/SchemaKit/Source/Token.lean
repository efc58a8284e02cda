/-!
# Tokens

A source text is a list of tokens: words, literals, punctuation marks one by one, and groups, which
hold the tokens between two brackets that match.  A mark knows whether the next mark follows it
without a gap, so that `::` and `: :` stay apart.
-/

namespace SchemaKit.Source

/-- The three kinds of brackets. -/
inductive Delimiter
  | parenthesis
  | bracket
  | brace
deriving DecidableEq

/-- What a literal stands for, as far as anything depends on it. -/
inductive Literal
  | text (value : String)
  | integer (suffixed : Bool)
  | float
  | other
deriving DecidableEq

/-- A token.  A raw word keeps the mark in front of it. -/
inductive Token
  | word (text : String)
  | mark (char : Char) (joint : Bool)
  | literal (value : Literal)
  | group (delimiter : Delimiter) (tokens : List Token)

namespace Token

mutual

/-- The number of tokens that a token consists of. -/
def count : Token → Nat
  | .group _ ts => countAll ts + 1
  | _ => 1

def countAll : List Token → Nat
  | [] => 0
  | t :: ts => count t + countAll ts

end

/-- What follows a run of marks, if the tokens begin with it.  The marks of a run stand side by
side. -/
def afterMarks : List Char → List Token → Option (List Token)
  | [], ts => some ts
  | [c], .mark d _ :: ts => if c = d then some ts else none
  | c :: cs, .mark d true :: ts => if c = d then afterMarks cs ts else none
  | _, _ => none

/-- Whether tokens begin with a run of marks. -/
def startsWithMarks (run : String) (ts : List Token) : Bool :=
  (afterMarks run.toList ts).isSome

def startsWithWord (text : String) : List Token → Bool
  | .word w :: _ => w = text
  | _ => false

def startsWithAnyWord : List Token → Bool
  | .word _ :: _ => true
  | _ => false

def startsWithGroup (d : Delimiter) : List Token → Bool
  | .group e _ :: _ => e = d
  | _ => false

/-- Whether tokens begin with a lifetime: an apostrophe and a word. -/
def startsWithLifetime : List Token → Bool
  | .mark '\'' true :: .word _ :: _ => true
  | _ => false

/-- The literal that tokens begin with, and what follows.  The words for the two truth values are
literals, and a minus sign belongs to the number after it. -/
def literal? : List Token → Option (Literal × List Token)
  | .literal v :: ts => some (v, ts)
  | .word w :: ts => if w = "true" || w = "false" then some (.other, ts) else none
  | .mark '-' _ :: .literal (.integer suffixed) :: ts => some (.integer suffixed, ts)
  | .mark '-' _ :: .literal .float :: ts => some (.float, ts)
  | _ => none

def startsWithLiteral (ts : List Token) : Bool :=
  (literal? ts).isSome

/-- The tokens without the first one.  A lifetime counts as one. -/
def skip (ts : List Token) : List Token :=
  if startsWithLifetime ts then ts.drop 2 else ts.drop 1

end Token

/-- The words that name nothing unless they are written as raw words. -/
def keywords : List String :=
  ["_", "abstract", "as", "async", "await", "become", "box", "break", "const", "continue", "crate",
    "do", "dyn", "else", "enum", "extern", "false", "final", "fn", "for", "if", "impl", "in",
    "let", "loop", "macro", "match", "mod", "move", "mut", "override", "priv", "pub", "ref",
    "return", "Self", "self", "static", "struct", "super", "trait", "true", "try", "type",
    "typeof", "unsafe", "unsized", "use", "virtual", "where", "while", "yield"]

def isName (word : String) : Bool :=
  !keywords.contains word

def Token.startsWithName : List Token → Bool
  | .word w :: _ => isName w
  | _ => false

end SchemaKit.Source
