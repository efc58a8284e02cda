import SchemaKit.Source.Control

/-!
# Expressions

The expressions that stand in types, in the values of attributes and behind the variants of an
enumeration: operands, what belongs to them, and the operators between them.
-/

namespace SchemaKit.Source

open Reader

/-! ### Operators -/

namespace Precedence

/-- The precedence of no operator.  An operator binds its operands the closer, the greater its
precedence. -/
def lowest : Nat := 0

def assign : Nat := 1

def range : Nat := 2

def compare : Nat := 5

def cast : Nat := 12

end Precedence

/-- The operators between two operands with their precedences, a longer one in front of its
beginnings. -/
def operatorTable : List (String × Nat) :=
  [("+=", Precedence.assign), ("-=", Precedence.assign), ("*=", Precedence.assign),
    ("/=", Precedence.assign), ("%=", Precedence.assign), ("^=", Precedence.assign),
    ("&=", Precedence.assign), ("|=", Precedence.assign), ("<<=", Precedence.assign),
    (">>=", Precedence.assign), ("||", 3), ("&&", 4), ("==", Precedence.compare),
    ("<=", Precedence.compare), ("!=", Precedence.compare), (">=", Precedence.compare),
    ("<<", 9), (">>", 9), ("<", Precedence.compare), (">", Precedence.compare), ("|", 6),
    ("^", 7), ("&", 8), ("+", 10), ("-", 10), ("*", 11), ("/", 11), ("%", 11)]

/-- The precedence of the operator that tokens begin with, and what follows. -/
def operator? (ts : List Token) : Option (Nat × List Token) :=
  operatorTable.findSome? fun (text, precedence) =>
    (Token.afterMarks text.toList ts).map fun rest => (precedence, rest)

def startsWithAssignment (ts : List Token) : Bool :=
  Token.startsWithMarks "=" ts && !Token.startsWithMarks "=>" ts

/-- Whether tokens begin with a point that is no part of a range. -/
def startsWithPoint (ts : List Token) : Bool :=
  Token.startsWithMarks "." ts && !Token.startsWithMarks ".." ts

/-- The precedence of what tokens go on with behind an operand. -/
def nextPrecedence (ts : List Token) : Nat :=
  match operator? ts with
  | some (precedence, _) => precedence
  | none =>
    if startsWithAssignment ts then Precedence.assign
    else if Token.startsWithMarks ".." ts then Precedence.range
    else if Token.startsWithWord "as" ts then Precedence.cast
    else Precedence.lowest

/-- The marks behind which a range has no end. -/
def rangeStops : List String :=
  [",", ";", "?", "=", "+", "/", "%", "^", ">", "<=", "!=", "-=", "*=", "&=", "|=", "<<="]

/-- Whether a range without an equals sign has no end in front of the tokens. -/
def endsRange (structs : Bool) (ts : List Token) : Bool :=
  ts.isEmpty || (rangeStops.any fun stop => Token.startsWithMarks stop ts) || startsWithPoint ts ||
    (!structs && Token.startsWithGroup .brace ts) || Token.startsWithWord "as" ts

/-- What may not follow a conversion. -/
def castFollower? (ts : List Token) : Option String :=
  if startsWithPoint ts then
    let member := Token.skip ts
    if Token.startsWithWord "await" member then some "`.await`"
    else if Token.startsWithName member &&
        (Token.startsWithGroup .parenthesis (Token.skip member) ||
          Token.startsWithMarks "::" (Token.skip member)) then some "a method call"
    else some "a field access"
  else if Token.startsWithMarks "?" ts then some "`?`"
  else if Token.startsWithGroup .bracket ts then some "indexing"
  else if Token.startsWithGroup .parenthesis ts then some "a function call"
  else none

/-- Whether tokens begin as a path does in an expression. -/
def startsWithPath (ts : List Token) : Bool :=
  startsWithModuleName ts || Token.startsWithMarks "::" ts || Token.startsWithMarks "<" ts ||
    (Token.startsWithWord "try" ts &&
      (Token.startsWithMarks "!" (Token.skip ts) || Token.startsWithMarks "::" (Token.skip ts)))

namespace Grammar

variable (g : Grammar)

/-- Reads the right operand of an operator, with all that binds it closer. -/
def rightOperand (structs : Bool) (precedence : Nat) : Reader Unit := do
  let first ← g.operand structs
  discard (iterate (fun right => do
    let ts ← tokens
    let following := nextPrecedence ts
    -- of operators of one precedence only assignments bind the right one first
    if following > precedence ||
        (following = precedence && precedence = Precedence.assign) then
      let right ← g.operators structs following right
      if (← tokens).length < ts.length then return some right else return none
    else return none) first)

/-- Reads the points of a range and its end. -/
def rangeEnd (structs : Bool) : Reader Unit := do
  if (← rangePoints false) || !(← next (endsRange structs)) then
    g.rightOperand structs Precedence.range

/-- Reads an operator behind a left operand, unless it binds less than the given precedence, and
what follows it. -/
def operatorStep (structs : Bool) (base : Nat) (left : ExpressionShape) :
    Reader (Option ExpressionShape) := do
  -- a range is no operand
  if left = .range then return none
  let ts ← tokens
  match operator? ts with
  | some (precedence, rest) =>
    if precedence < base then return none
    let compares : Bool := precedence = Precedence.compare
    if compares && left = .comparison then throw .chainedComparison
    goTo rest
    g.rightOperand structs precedence
    return some (if compares then .comparison else .other)
  | none =>
    if base ≤ Precedence.assign && startsWithAssignment ts then
      marks "="
      g.rightOperand structs Precedence.assign
      return some .other
    else if base ≤ Precedence.range && Token.startsWithMarks ".." ts then
      g.rangeEnd structs
      return some .range
    else if Token.startsWithWord "as" ts then
      word "as"
      discard (g.type false)
      match castFollower? (← tokens) with
      | some what => throw (.castFollowed what)
      | none => return some .other
    else return none

/-- Reads the operators behind a left operand that bind at least as close as the given
precedence. -/
def readOperators (structs : Bool) (base : Nat) (left : ExpressionShape) :
    Reader ExpressionShape :=
  iterate (g.operatorStep structs base) left

/-! ### Operands -/

/-- Reads expressions in parentheses. -/
def call : Reader Unit :=
  discard (within .parenthesis (commaSeparated (g.expression true)))

/-- Reads a member behind a point, or a call of it. -/
def access : Reader Unit := do
  match Token.literal? (← tokens) with
  | some (.float, rest) => goTo rest
  | _ =>
    if ← word? "await" then return
    let isNamed ← member
    let generic ← if isNamed then marks? "::" else pure false
    if generic then
      marks "<"
      discard (angled g.argument)
    if isNamed && (generic || (← nextGroup .parenthesis)) then g.call

/-- Reads what stands behind an expression and belongs to it: calls, members, indices and question
marks. -/
def trailers (shape : ExpressionShape) : Reader ExpressionShape :=
  iterate (fun shape => do
    let ts ← tokens
    if Token.startsWithGroup .parenthesis ts then
      g.call
      return some .other
    else if startsWithPoint ts && shape != .range then
      marks "."
      g.access
      return some .other
    else if Token.startsWithGroup .bracket ts then
      within .bracket (g.expression true)
      return some .other
    else if Token.startsWithMarks "?" ts && shape != .range then
      marks "?"
      return some .other
    else return none) shape

def structMembers : Reader Unit :=
  within .brace do
    repeating do
      if ← atEnd then return false
      if ← marks? ".." then
        if !(← atEnd) then g.expression true
        return false
      discard g.attributes
      let isNamed ← member
      if !isNamed || (← nextMarks ":") then
        marks ":"
        g.expression true
      if ← atEnd then return false
      marks ","
      return true

/-- Reads a path, a call of it with an exclamation mark, or a structure. -/
def pathExpression (structs : Bool) : Reader ExpressionShape := do
  let (isPlain, p) ← g.qualifiedPath true
  if isPlain && p.isPlain && (← nextMarks "!") && !(← nextMarks "!=") then
    marks "!"
    let isBraced ← nextGroup .brace
    anyGroup
    return if isBraced then .bracedCall else .other
  else
    if structs && (← nextGroup .brace) then g.structMembers
    return .other

/-- Reads several expressions in square brackets, or one and how often it is repeated. -/
def sequence : Reader Unit :=
  within .bracket do
    if ← atEnd then return
    g.expression true
    if ← atEnd then return
    if ← marks? "," then discard (commaSeparated (g.expression true))
    else if ← marks? ";" then g.expression true
    else expect [.text ",", .text ";"]

/-- Reads the test of a pattern. -/
def patternTest (structs : Bool) : Reader Unit := do
  word "let"
  discard g.alternatives
  marks "="
  let left ← g.operand structs
  discard (g.operators structs Precedence.compare left)

/-- Whether tokens begin with a word that is built in. -/
def startsWithBuiltin (ts : List Token) : Bool :=
  Token.startsWithWord "builtin" ts && Token.startsWithMarks "#" (Token.skip ts)

/-- Reads an expression with a word that is built in.  What it is given is not looked at. -/
def builtin : Reader Unit := do
  word "builtin"
  marks "#"
  discard anyWord
  discard (group .parenthesis)

/-- Whether tokens begin with an expression that begins and ends as a block does. -/
def startsAsBlock (ts : List Token) : Bool :=
  startsWithOneOf ["if", "while", "loop", "match", "unsafe"] ts ||
    (Token.startsWithWord "for" ts && !startsWithBinder ts) ||
    startsWithBlockOf ["try", "const"] ts || Token.startsWithGroup .brace ts ||
    Token.startsWithLifetime ts

def blockExpression : Reader Unit := do
  let ts ← tokens
  if Token.startsWithWord "if" ts then g.choice
  else if Token.startsWithWord "while" ts then g.whileLoop
  else if Token.startsWithWord "for" ts then g.forLoop
  else if Token.startsWithWord "loop" ts then g.endlessLoop
  else if Token.startsWithWord "match" ts then g.matching
  else if Token.startsWithWord "try" ts then
    discard anyWord
    g.block
  else if Token.startsWithLifetime ts then g.labelled
  else
    discard (oneOfWords? ["unsafe", "const"])
    g.body

/-- Reads an expression that no operator stands in. -/
def atom (structs : Bool) : Reader ExpressionShape := do
  let ts ← tokens
  if Token.startsWithLiteral ts then discard literal
  else if startsWithAsync ts then
    discard anyWord
    discard (word? "move")
    g.block
  else if startsWithClosure ts then g.closure structs
  else if startsWithBuiltin ts then builtin
  else if startsWithPath ts then return ← g.pathExpression structs
  else if Token.startsWithGroup .parenthesis ts then g.call
  else if Token.startsWithGroup .bracket ts then g.sequence
  else if Token.startsWithWord "break" ts then g.breaking structs
  else if ← word? "continue" then
    if ← next Token.startsWithLifetime then lifetime
  else if ← oneOfWords? ["return", "yield"] then g.jumpValue true
  else if ← word? "become" then g.expression true
  else if Token.startsWithWord "let" ts then g.patternTest structs
  else if startsAsBlock ts then
    g.blockExpression
    return .block
  else if Token.startsWithMarks ".." ts then
    g.rangeEnd structs
    return .range
  else if ← word? "_" then return .other
  else expect [.kind "an expression"]
  return .other

/-- Reads an operand: an expression with the signs in front of it and all that belongs to it. -/
def readOperand (structs : Bool) : Reader ExpressionShape := do
  let attributes ← g.attributes
  if ← marks? "&" then
    let ts ← tokens
    if Token.startsWithWord "raw" ts && startsWithOneOf ["mut", "const"] (Token.skip ts) then
      discard anyWord
      discard anyWord
    else discard (word? "mut")
    discard (g.operand structs)
    return .other
  else if ← oneOfMarks? ["*", "!", "-"] then
    discard (g.operand structs)
    return .other
  else
    let shape ← g.trailers (← g.atom structs)
    if shape = .range && !attributes.isEmpty then throw .attributeOnRange
    return shape

def readExpression (structs : Bool) : Reader Unit := do
  let first ← g.operand structs
  discard (g.operators structs Precedence.lowest first)

/-- Reads a block, which ends the expression unless a point or a question mark follows, or any other
expression. -/
def readBlockOrExpression : Reader ExpressionShape := do
  discard g.attributes
  if startsAsBlock (← tokens) then
    g.blockExpression
    let ts ← tokens
    if startsWithPoint ts || Token.startsWithMarks "?" ts then
      g.operators true Precedence.lowest (← g.trailers .block)
    else return .block
  else g.operators true Precedence.lowest (← g.operand true)

end Grammar

end SchemaKit.Source
