import SchemaKit.Source.Expression

/-!
# Statements

The statements of a block, which close the circle of the grammar: `Grammar.ofDepth` is the whole of
it.  An item inside a block ends with its braces or its semicolon, and is not looked at.
-/

namespace SchemaKit.Source

open Reader

/-! ### Items -/

/-- The keywords that begin an item wherever a statement may begin. -/
def itemKeywords : List String :=
  ["pub", "extern", "use", "fn", "mod", "type", "struct", "enum", "trait", "impl", "macro"]

/-- Whether tokens begin with a function, given what stands in front of it. -/
def startsWithFunctionOf (word : String) (ts : List Token) : Bool :=
  Token.startsWithWord word ts && startsWithFunction (Token.skip ts)

/-- Whether tokens begin with the constant of an item. -/
def startsWithConstant (ts : List Token) : Bool :=
  let rest := Token.skip ts
  Token.startsWithWord "const" ts &&
    !(Token.startsWithGroup .brace rest || startsWithOneOf ["static", "move"] rest ||
      (Token.startsWithWord "async" rest && !startsWithFunctionOf "async" rest) ||
      Token.startsWithMarks "|" rest)

def startsWithStatic (ts : List Token) : Bool :=
  let rest := Token.skip ts
  Token.startsWithWord "static" ts &&
    (Token.startsWithWord "mut" rest || Token.startsWithName rest)

def startsWithItem (ts : List Token) : Bool :=
  let rest := Token.skip ts
  startsWithOneOf itemKeywords ts ||
    (Token.startsWithWord "crate" ts && !Token.startsWithMarks "::" rest) ||
    startsWithStatic ts || startsWithConstant ts ||
    (Token.startsWithWord "unsafe" ts && !Token.startsWithGroup .brace rest) ||
    startsWithFunctionOf "async" ts ||
    (Token.startsWithWord "union" ts && Token.startsWithName rest) ||
    (Token.startsWithWord "auto" ts && Token.startsWithWord "trait" rest) ||
    (Token.startsWithWord "default" ts && startsWithOneOf ["unsafe", "impl"] rest)

/-- What follows a path of modules, if tokens begin with one. -/
def afterModulePath? (ts : List Token) : Option (List Token) :=
  match modulePath.run { rest := ts } with
  | .ok (_, c) => some c.rest
  | .error _ => none

/-- What follows an exclamation mark behind a path, if tokens begin with both. -/
def afterCall? (ts : List Token) : Option (List Token) :=
  (afterModulePath? ts).bind (Token.afterMarks ['!'])

/-- Whether tokens begin with the definition of a name that is called with an exclamation mark. -/
def startsWithDefinition (ts : List Token) : Bool :=
  (afterCall? ts).any fun rest => Token.startsWithName rest || Token.startsWithWord "try" rest

/-- Whether tokens begin with a call with an exclamation mark and braces that nothing is read
from. -/
def startsWithBracedCall (ts : List Token) : Bool :=
  (afterCall? ts).any fun rest =>
    Token.startsWithGroup .brace rest &&
      !(startsWithPoint (Token.skip rest) || Token.startsWithMarks "?" (Token.skip rest))

/-- Whether an item ends with a semicolon, although braces may stand in it. -/
def endsWithSemicolon (ts : List Token) : Bool :=
  startsWithOneOf ["use", "type", "static"] ts ||
    (startsWithConstant ts && !startsWithFunctionOf "const" ts &&
      !startsWithFunctionOf "async" (Token.skip ts))

/-- What follows an item, if it has an end. -/
def afterItem? (semicolon : Bool) : List Token → Option (List Token)
  | [] => none
  | .mark ';' _ :: ts => some ts
  | .group .brace _ :: ts => if semicolon then afterItem? semicolon ts else some ts
  | _ :: ts => afterItem? semicolon ts

namespace Grammar

variable (g : Grammar)

def item : Reader Unit := do
  let ts ← tokens
  match afterItem? (endsWithSemicolon ts) ts with
  | some rest => goTo rest
  | none => throw (.expected false [.text ";"])

/-! ### Statements -/

/-- Reads a name for a value, and what to do where the value does not fit.  That has to be divided
from a value that ends in a brace. -/
def binding : Reader Unit := do
  word "let"
  discard g.pattern
  if ← marks? ":" then discard (g.type true)
  if ← marks? "=" then
    let before ← tokens
    g.expression true
    let value := before.take (before.length - (← tokens).length)
    if !Token.startsWithGroup .brace value.reverse then
      if ← word? "else" then g.block
  marks ";"

/-- Reads a statement, and tells whether a semicolon has to follow it. -/
def statement : Reader Bool := do
  discard g.attributes
  let ts ← tokens
  if startsWithBracedCall ts then
    discard modulePath
    marks "!"
    anyGroup
    discard (marks? ";")
    return false
  else if Token.startsWithWord "let" ts then
    g.binding
    return false
  else if startsWithItem ts || startsWithDefinition ts then
    item
    return false
  else
    let shape ← g.blockOrExpression
    return !(← marks? ";") && shape != .block && shape != .bracedCall

/-- Reads the statements of a block.  Semicolons may stand alone. -/
def readStatements : Reader Unit :=
  repeating do
    repeating (marks? ";")
    if ← atEnd then return false
    let isOpen ← g.statement
    if ← atEnd then return false
    if isOpen then throw .missingSemicolon
    return true

/-! ### The whole grammar -/

/-- The grammar of what nests at most as deep as the given number. -/
def ofDepth : Nat → Grammar
  | 0 =>
    { type := fun _ => throw .noTokens, bound := fun _ _ => throw .noTokens,
      pattern := throw .noTokens, expression := fun _ => throw .noTokens,
      operand := fun _ => throw .noTokens, operators := fun _ _ _ => throw .noTokens,
      blockOrExpression := throw .noTokens, statements := throw .noTokens }
  | n + 1 =>
    let g := ofDepth n
    { type := g.readType, bound := g.readBound, pattern := g.readPattern,
      expression := g.readExpression, operand := g.readOperand, operators := g.readOperators,
      blockOrExpression := g.readBlockOrExpression, statements := g.readStatements }

end Grammar

end SchemaKit.Source
