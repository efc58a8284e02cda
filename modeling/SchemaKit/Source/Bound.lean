import SchemaKit.Source.Attribute

/-!
# Paths, bounds and parameters

The paths of types and expressions with their arguments, the bounds that a type has to keep, and the
parameters between angle brackets that a declaration or a bound begins with.
-/

namespace SchemaKit.Source

open Reader

/-- Whether tokens begin with a path of modules that goes on behind double colons, with something
other than parentheses. -/
def startsWithMoreWords (ts : List Token) : Bool :=
  match Token.afterMarks "::".toList ts with
  | some rest => !Token.startsWithGroup .parenthesis rest
  | none => false

/-- Whether tokens begin with double colons and an angle bracket. -/
def startsWithTurbofish (ts : List Token) : Bool :=
  match Token.afterMarks "::".toList ts with
  | some rest => Token.startsWithMarks "<" rest
  | none => false

/-- Whether tokens begin with parentheses, perhaps behind double colons. -/
def startsWithCall (ts : List Token) : Bool :=
  match Token.afterMarks "::".toList ts with
  | some rest => Token.startsWithGroup .parenthesis rest
  | none => Token.startsWithGroup .parenthesis ts

/-- Whether tokens begin with an angle bracket that no comparison begins with. -/
def startsWithArguments (ts : List Token) : Bool :=
  Token.startsWithMarks "<" ts && !Token.startsWithMarks "<=" ts &&
    !Token.startsWithMarks "<<=" ts

/-- Whether tokens begin with a colon that is not half of double colons. -/
def startsWithColon (ts : List Token) : Bool :=
  Token.startsWithMarks ":" ts && !Token.startsWithMarks "::" ts

/-- Whether tokens begin with a keyword that is a word of a path by itself. -/
def startsWithPathKeyword : List Token → Bool
  | .word w :: _ => ["super", "self", "crate", "try"].contains w
  | _ => false

namespace Grammar

variable (g : Grammar)

/-! ### Arguments -/

def block : Reader Unit :=
  within .brace g.statements

/-- Reads a block that may begin with attributes of its own. -/
def body : Reader Unit :=
  within .brace do
    g.innerAttributes
    g.statements

/-- Reads a value between angle brackets or behind an equals sign: a literal, a name or a block. -/
def constantArgument : Reader Unit := do
  let ts ← tokens
  if Token.startsWithLiteral ts then discard literal
  else if Token.startsWithName ts then discard name
  else if Token.startsWithGroup .brace ts then g.body
  else expect []

/-- Whether tokens begin with a literal or a block, which are values and no types. -/
def startsWithConstant (ts : List Token) : Bool :=
  Token.startsWithLiteral ts || Token.startsWithGroup .brace ts

/-- Reads bounds with plus signs between them, up to a token at which they end. -/
def bounds (stops : List Token → Bool) : Reader Unit :=
  repeating do
    if ← next stops then return false
    discard (g.bound false true)
    marks? "+"

/-- Whether bounds inside angle brackets end. -/
def endsArgument (ts : List Token) : Bool :=
  Token.startsWithMarks "," ts || Token.startsWithMarks ">" ts

/-- Reads an argument between angle brackets: a lifetime, a value, a type, or a name with a type, a
value or bounds of its own. -/
def argument : Reader Unit := do
  let ts ← tokens
  if Token.startsWithLifetime ts && !Token.startsWithMarks "+" (Token.skip ts) then lifetime
  else if startsWithConstant ts then g.constantArgument
  else
    match ← g.type true with
    | .path p =>
      if !p.rooted && p.words = 1 then
        if ← marks? "=" then
          if ← next startsWithConstant then g.constantArgument else discard (g.type true)
        else if ← marks? ":" then g.bounds endsArgument
    | _ => return

/-- Reads items between angle brackets behind the opening one, and tells whether there are none. -/
def angled (item : Reader Unit) : Reader Bool := do
  let isEmpty ← nextMarks ">"
  repeating do
    if ← nextMarks ">" then return false
    item
    if ← nextMarks ">" then return false
    marks ","
    return true
  marks ">"
  return isEmpty

def angledArguments : Reader Bool := do
  discard (marks? "::")
  marks "<"
  angled g.argument

/-- Reads the type that a function gives back, if there is one.  It is no sum of bounds. -/
def result : Reader Unit := do
  if ← marks? "->" then discard (g.type false)

/-- Reads the arguments and the result of a function. -/
def callArguments : Reader Unit := do
  discard (within .parenthesis (commaSeparated (g.type true)))
  g.result

/-! ### Paths -/

/-- Reads a word of a path and the arguments behind it.  In an expression they stand behind double
colons. -/
def pathWord (inExpression : Bool) : Reader PathArguments := do
  let ts ← tokens
  if startsWithPathKeyword ts then
    discard anyWord
    return .none
  if Token.startsWithWord "Self" ts then discard anyWord else discard name
  let ts ← tokens
  if (!inExpression && startsWithArguments ts) || startsWithTurbofish ts then
    return .angled (← g.angledArguments)
  else return .none

def moreWords (inExpression : Bool) (p : PathShape) : Reader PathShape :=
  iterate (fun p => do
    if ← next startsWithMoreWords then
      marks "::"
      return some (p.push (← g.pathWord inExpression))
    else return none) p

def path (inExpression : Bool) : Reader PathShape := do
  let rooted ← marks? "::"
  let first ← g.pathWord inExpression
  g.moreWords inExpression { rooted, words := 1, isPlain := first = .none, last := first }

/-- Reads a path that begins with a type in angle brackets, or a plain path, and tells whether it is
a plain one. -/
def qualifiedPath (inExpression : Bool) : Reader (Bool × PathShape) := do
  if ← marks? "<" then
    discard (g.type true)
    if ← word? "as" then discard (g.path false)
    marks ">"
    marks "::"
    let first ← g.pathWord inExpression
    let p : PathShape := { rooted := true, words := 1, isPlain := false, last := first }
    let p ← iterate (fun p => do
      if ← marks? "::" then return some (p.push (← g.pathWord inExpression)) else return none) p
    return (false, p)
  else return (true, ← g.path inExpression)

/-! ### Parameters -/

/-- Whether bounds of a lifetime between angle brackets end. -/
def endsLifetimes (ts : List Token) : Bool :=
  ts.isEmpty || endsArgument ts

/-- Reads lifetimes with plus signs between them, up to a token at which they end. -/
def lifetimes (stops : List Token → Bool) : Reader Unit :=
  repeating do
    if ← next stops then return false
    lifetime
    marks? "+"

/-- Reads a lifetime and its bounds. -/
def lifetimeParameter : Reader Unit := do
  lifetime
  if ← marks? ":" then lifetimes endsLifetimes

/-- Whether the bounds of a type between angle brackets end. -/
def endsBounds (ts : List Token) : Bool :=
  ts.isEmpty || endsArgument ts || Token.startsWithMarks "=" ts

/-- Reads the name of a type, its bounds and its default. -/
def typeParameter : Reader Unit := do
  discard name
  if ← marks? ":" then g.bounds endsBounds
  if ← marks? "=" then discard (g.type true)

/-- Reads the name of a value, its type and its default. -/
def constantParameter : Reader Unit := do
  word "const"
  discard name
  marks ":"
  discard (g.type true)
  if ← marks? "=" then g.constantArgument

def boundParameter : Reader Unit := do
  discard g.attributes
  let ts ← tokens
  if Token.startsWithName ts then g.typeParameter
  else if Token.startsWithLifetime ts then lifetimeParameter
  else if Token.startsWithWord "const" ts then g.constantParameter
  else expect [.kind "identifier", .kind "lifetime", .text "const"]

/-- Reads the parameters in front of a bound or a type, and tells whether there are any. -/
def binder : Reader Bool := do
  if ← word? "for" then
    marks "<"
    discard (angled g.boundParameter)
    return true
  else return false

def parameter : Reader Unit := do
  discard g.attributes
  let ts ← tokens
  if Token.startsWithLifetime ts then lifetimeParameter
  else if Token.startsWithName ts then g.typeParameter
  else if Token.startsWithWord "const" ts then g.constantParameter
  else if Token.startsWithWord "_" ts then discard anyWord
  else expect [.kind "lifetime", .kind "identifier", .text "const"]

def parameters : Reader Unit := do
  if ← marks? "<" then discard (angled g.parameter)

/-! ### Bounds -/

/-- Reads the names that a type captures. -/
def capture : Reader Unit := do
  word "use"
  marks "<"
  repeating do
    let ts ← tokens
    if Token.startsWithLifetime ts then lifetime
    else if Token.startsWithName ts || Token.startsWithWord "Self" ts then discard anyWord
    else if Token.startsWithMarks ">" ts then return false
    else expect [.kind "lifetime", .kind "identifier", .text ">"]
    if ← marks? "," then return true
    else if ← nextMarks ">" then return false
    else expect [.text ",", .text ">"]
  marks ">"

/-- Reads a trait as a bound.  It may stand like a function, with arguments in parentheses and a
result; a path that is a type by itself may not. -/
def traitBound (constants : Bool) : Reader Bound := do
  let bound ← g.binder
  let bracketed ← nextGroup .bracket
  if bracketed then
    within .bracket (word "const")
    if !constants then throw (.constNotAllowed true)
  let plain ← if bracketed then pure false else word? "const"
  if plain && !constants then throw (.constNotAllowed false)
  let optional ← marks? "?"
  let bound ← if optional && !bound then g.binder else pure bound
  let p ← g.path false
  if p.last.isEmpty && startsWithCall (← tokens) then
    discard (marks? "::")
    g.callArguments
  if bound && optional then throw .binderOnOptional
  return .trait (bracketed || plain)

/-- Reads a bound: a lifetime, a capture, or a trait, perhaps in parentheses. -/
def readBound (captures constants : Bool) : Reader Bound := do
  let ts ← tokens
  if Token.startsWithLifetime ts then
    lifetime
    return .lifetime
  else if Token.startsWithWord "use" ts then
    capture
    if captures then return .capture else throw .captureNotAllowed
  else if Token.startsWithGroup .parenthesis ts then
    within .parenthesis (g.traitBound constants)
  else g.traitBound constants

def startsWithBound (constants : Bool) (ts : List Token) : Bool :=
  Token.startsWithAnyWord ts || Token.startsWithMarks "::" ts || Token.startsWithMarks "?" ts ||
    Token.startsWithLifetime ts || Token.startsWithGroup .parenthesis ts ||
    (constants && Token.startsWithGroup .bracket ts)

/-- Reads bounds with plus signs between them, and tells whether one of them is a trait.  A plus
sign may stand behind the last. -/
def boundSum (plus captures constants : Bool) : Reader Bool := do
  let first ← g.bound captures constants
  iterate (fun found => do
    if !plus then return none
    if !(← marks? "+") then return none
    if !(← next (startsWithBound constants)) then return none
    let b ← g.bound captures constants
    return some (found || b.isTrait)) first.isTrait

/-! ### Conditions -/

def endsCondition (ts : List Token) : Bool :=
  ts.isEmpty || Token.startsWithGroup .brace ts || Token.startsWithMarks "," ts ||
    Token.startsWithMarks ";" ts || startsWithColon ts || Token.startsWithMarks "=" ts

def endsLifetimeCondition (ts : List Token) : Bool :=
  endsCondition ts || Token.startsWithMarks ":" ts

/-- Reads a condition: a lifetime or a type, and its bounds. -/
def condition : Reader Unit := do
  let ts ← tokens
  if Token.startsWithLifetime ts && Token.startsWithMarks ":" (Token.skip ts) then
    lifetime
    marks ":"
    lifetimes endsLifetimeCondition
  else
    discard g.binder
    discard (g.type true)
    marks ":"
    g.bounds endsCondition

def conditions : Reader Unit := do
  word "where"
  repeating do
    if ← next endsCondition then return false
    g.condition
    marks? ","

end Grammar

end SchemaKit.Source
