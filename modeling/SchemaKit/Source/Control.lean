import SchemaKit.Source.Pattern

/-!
# Control

The expressions that a keyword or a brace begins: blocks, choices, loops, matches, closures and the
jumps out of them.
-/

namespace SchemaKit.Source

open Reader

/-- Whether tokens begin with a keyword and the braces of a block. -/
def startsWithBlockOf (words : List String) (ts : List Token) : Bool :=
  startsWithOneOf words ts && Token.startsWithGroup .brace (Token.skip ts)

/-- Whether tokens begin with a block that is run later. -/
def startsWithAsync (ts : List Token) : Bool :=
  let rest := Token.skip ts
  Token.startsWithWord "async" ts &&
    (Token.startsWithGroup .brace rest || startsWithBlockOf ["move"] rest)

/-- Whether tokens begin with parameters of their own. -/
def startsWithBinder (ts : List Token) : Bool :=
  let rest := Token.skip ts
  Token.startsWithWord "for" ts && Token.startsWithMarks "<" rest &&
    (Token.startsWithLifetime (Token.skip rest) || Token.startsWithMarks ">" (Token.skip rest))

def startsWithClosure (ts : List Token) : Bool :=
  let rest := Token.skip ts
  Token.startsWithMarks "|" ts || startsWithOneOf ["move", "static"] ts || startsWithBinder ts ||
    (Token.startsWithWord "const" ts && !Token.startsWithGroup .brace rest) ||
    (Token.startsWithWord "async" ts &&
      (Token.startsWithMarks "|" rest || Token.startsWithWord "move" rest))

/-- The marks that an expression may begin with, each with the longer runs that it is no part of. -/
def expressionMarks : List (String × List String) :=
  [("!", ["!="]), ("-", ["-=", "->"]), ("*", ["*="]), ("|", ["|="]), ("&", ["&="]), ("..", []),
    ("<", ["<=", "<<="]), ("::", []), ("#", [])]

def startsWithExpression (ts : List Token) : Bool :=
  (Token.startsWithAnyWord ts && !Token.startsWithWord "as" ts) ||
    Token.startsWithGroup .parenthesis ts || Token.startsWithGroup .bracket ts ||
    Token.startsWithGroup .brace ts || Token.startsWithLiteral ts ||
    Token.startsWithLifetime ts ||
    expressionMarks.any fun (run, longer) =>
      Token.startsWithMarks run ts && !longer.any fun l => Token.startsWithMarks l ts

namespace Grammar

variable (g : Grammar)

/-- Reads a choice between blocks. -/
def choice : Reader Unit :=
  repeating do
    word "if"
    g.expression false
    g.block
    if !(← word? "else") then return false
    if ← nextWord "if" then return true
    if ← nextGroup .brace then
      g.block
      return false
    expect [.text "if", .kind "curly braces"]

def whileLoop : Reader Unit := do
  word "while"
  g.expression false
  g.body

def forLoop : Reader Unit := do
  word "for"
  discard g.alternatives
  word "in"
  g.expression false
  g.body

/-- Reads a loop without an end. -/
def endlessLoop : Reader Unit := do
  word "loop"
  g.body

/-- Reads an arm of a match.  A comma stands behind it, unless it is a block. -/
def arm : Reader Unit := do
  discard g.attributes
  discard g.alternatives
  if ← word? "if" then g.expression true
  marks "=>"
  let shape ← g.blockOrExpression
  if shape != .block && !(← atEnd) then marks "," else discard (marks? ",")

def matching : Reader Unit := do
  word "match"
  g.expression false
  within .brace do
    g.innerAttributes
    repeating do
      if ← atEnd then return false
      g.arm
      return true

/-- Reads a loop or a block with a label. -/
def labelled : Reader Unit := do
  lifetime
  marks ":"
  let ts ← tokens
  if Token.startsWithWord "while" ts then g.whileLoop
  else if Token.startsWithWord "for" ts then g.forLoop
  else if Token.startsWithWord "loop" ts then g.endlessLoop
  else if Token.startsWithGroup .brace ts then g.body
  else expect [.kind "loop or block expression"]

def closureParameter : Reader Unit := do
  discard g.attributes
  discard g.pattern
  if ← marks? ":" then discard (g.type true)

/-- Reads the parameters of a closure behind the first bar. -/
def closureParameters : Reader Unit := do
  repeating do
    if ← nextMarks "|" then return false
    g.closureParameter
    if ← nextMarks "|" then return false
    marks ","
    return true
  marks "|"

def closure (structs : Bool) : Reader Unit := do
  discard g.binder
  discard (word? "const")
  discard (word? "static")
  discard (word? "async")
  discard (word? "move")
  marks "|"
  g.closureParameters
  if ← marks? "->" then
    discard (g.type true)
    g.block
  else g.expression structs

/-- Reads the expression behind a jump, if there is one. -/
def jumpValue (structs : Bool) : Reader Unit := do
  let ts ← tokens
  if startsWithExpression ts && (structs || !Token.startsWithGroup .brace ts) then
    g.expression structs

/-- Reads a jump out of a loop or a block.  A loop with a label stands in parentheses. -/
def breaking (structs : Bool) : Reader Unit := do
  word "break"
  let ts ← tokens
  if Token.startsWithLifetime ts then
    if Token.startsWithMarks ":" (Token.skip ts) then
      g.expression true
      throw .labelledBreak
    lifetime
  g.jumpValue structs

end Grammar

end SchemaKit.Source
