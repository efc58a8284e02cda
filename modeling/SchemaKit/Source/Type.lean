import SchemaKit.Source.Bound

/-!
# Types

The types of fields.  Which token a type begins with decides what it is.
-/

namespace SchemaKit.Source

open Reader

/-- What a type may begin with. -/
def typeStarts : List Wanted :=
  [.text "for", .kind "parentheses", .text "fn", .text "unsafe", .text "extern",
    .kind "identifier", .text "::", .text "<", .text "dyn", .kind "square brackets", .text "*",
    .text "&", .text "!", .text "impl", .text "_", .kind "lifetime"]

/-- What a type may begin with behind parameters of its own. -/
def boundTypeStarts : List Wanted :=
  [.kind "identifier", .text "fn", .text "unsafe", .text "extern", .text "super", .text "self",
    .text "Self", .text "crate"]

def startsWithOneOf (words : List String) : List Token → Bool
  | .word w :: _ => words.contains w
  | _ => false

/-- Whether tokens begin with a function without a name. -/
def startsWithFunction : List Token → Bool :=
  startsWithOneOf ["fn", "unsafe", "extern"]

/-- Whether tokens begin with a word that a path of modules may begin with. -/
def startsWithModuleName (ts : List Token) : Bool :=
  Token.startsWithName ts || startsWithOneOf moduleKeywords ts

/-- Whether tokens begin with a name or an underscore, and a colon behind it. -/
def startsWithLabel (ts : List Token) : Bool :=
  (Token.startsWithName ts || Token.startsWithWord "_" ts) && startsWithColon (Token.skip ts)

namespace Grammar

variable (g : Grammar)

/-- Reads more bounds behind plus signs.  They are plain traits and lifetimes. -/
def addedBounds : Reader Unit :=
  repeating do
    if ← marks? "+" then
      discard (g.bound false false)
      return true
    else return false

/-- Reads a type that begins as a path does: a path, a call of it with an exclamation mark, or a sum
of bounds.  No parentheses belong to the path.  `bound` tells whether parameters of its own stand in
front of it. -/
def namedType (plus bound : Bool) : Reader TypeShape := do
  let (isPlain, p) ← g.qualifiedPath false
  if !isPlain then return .other
  if p.isPlain && (← nextMarks "!") && !(← nextMarks "!=") then
    marks "!"
    anyGroup
    return .other
  if bound || (plus && (← nextMarks "+")) then
    if !plus then return .bounds true
    let isSingle ← iterate (fun isSingle => do
      if !(← marks? "+") then return none
      if ← next (startsWithBound false) then
        discard (g.bound false false)
        return some false
      else return some isSingle) (!(← nextMarks "+"))
    return .bounds isSingle
  return .path p

/-- Reads what stands in the parentheses of a type, and tells what stands there by itself. -/
def enclosedType : Reader (Option TypeShape) := do
  if ← atEnd then return none
  if ← next Token.startsWithLifetime then
    if ← g.boundSum true false false then return some .other else throw .noTraitInObject
  let first ← g.type true
  if ← marks? "," then
    discard (commaSeparated (g.type true))
    return none
  return some first

/-- Reads a type in parentheses: several types, a single one, or the first of several bounds. -/
def parenthesizedType (plus : Bool) : Reader TypeShape := do
  let inner ← group .parenthesis
  if Token.startsWithMarks "?" inner then
    discard (inside .parenthesis inner (g.traitBound false))
    let isSingle := !(← nextMarks "+")
    g.addedBounds
    return .bounds isSingle
  let isBound := match ← inside .parenthesis inner g.enclosedType with
    | none => none
    | some (.path _) => some true
    | some (.bounds isSingle) => some isSingle
    | some _ => some false
  match isBound with
  | none => return .other
  | some isBound =>
    if plus && isBound && (← nextMarks "+") then
      g.addedBounds
      return .bounds false
    else return .other

/-- Reads an argument of a function without a name.  Only the first may be the receiver. -/
def functionArgument (isFirst : Bool) : Reader Unit := do
  let ts ← tokens
  let receiver := fun ts => isFirst && Token.startsWithWord "self" ts
  let changing := Token.startsWithWord "mut" ts && receiver (Token.skip ts)
  if changing then discard anyWord
  let ts ← tokens
  if startsWithLabel ts || (receiver ts && startsWithColon (Token.skip ts)) then
    discard anyWord
    marks ":"
    if ← nextWord "mut" then
      if receiver (Token.skip (← tokens)) && !receiver ts then
        discard anyWord
        discard anyWord
        return
    discard (g.type true)
  else if changing then discard anyWord
  else discard (g.type true)

/-- Reads the arguments of a function without a name.  The last may stand for any number more. -/
def functionArguments : Reader Unit := do
  discard (iterate (fun isFirst => do
    if ← atEnd then return none
    discard g.attributes
    let ts ← tokens
    if Token.startsWithMarks "..." ts then
      marks "..."
      discard (marks? ",")
      return none
    if startsWithLabel ts && Token.startsWithMarks "..." (Token.skip (Token.skip ts)) then
      discard anyWord
      marks ":"
      marks "..."
      discard (marks? ",")
      return none
    g.functionArgument isFirst
    if ← atEnd then return none
    marks ","
    return some false) true)

def functionType : Reader Unit := do
  discard g.binder
  discard (word? "unsafe")
  if ← word? "extern" then
    match Token.literal? (← tokens) with
    | some (.text _, rest) => goTo rest
    | _ => pure ()
  word "fn"
  within .parenthesis g.functionArguments
  g.result

/-- Reads a type in square brackets: any number of values of a type, or a certain number. -/
def sequenceType : Reader Unit :=
  within .bracket do
    discard (g.type true)
    if ← marks? ";" then g.expression true

/-- Reads a type.  A sum of bounds is one only where `plus` is set. -/
def readType (plus : Bool) : Reader TypeShape := do
  let bound ← g.binder
  let ts ← tokens
  if bound && !startsWithModuleName ts && !startsWithFunction ts then expect boundTypeStarts
  else if Token.startsWithGroup .parenthesis ts then g.parenthesizedType plus
  else if startsWithFunction ts then g.functionType; return .other
  else if startsWithModuleName ts || Token.startsWithMarks "::" ts || Token.startsWithMarks "<" ts
  then g.namedType plus bound
  else if ← word? "dyn" then
    discard (marks? "*")
    if ← g.boundSum plus false false then return .other else throw .noTraitInObject
  else if Token.startsWithGroup .bracket ts then g.sequenceType; return .other
  else if ← marks? "*" then
    if !(← oneOfWords? ["const", "mut"]) then expect [.text "const", .text "mut"]
    discard (g.type false)
    return .other
  else if ← marks? "&" then
    if ← next Token.startsWithLifetime then lifetime
    discard (word? "mut")
    discard (g.type false)
    return .other
  else if ← marks? "!" then return .other
  else if ← word? "impl" then
    if ← g.boundSum plus true true then return .other else throw .noTrait
  else if ← word? "_" then return .other
  else if Token.startsWithLifetime ts then
    if ← g.boundSum true false false then return .bounds false else throw .noTraitInObject
  else expect typeStarts

end Grammar

end SchemaKit.Source
