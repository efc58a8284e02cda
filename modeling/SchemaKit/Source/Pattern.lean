import SchemaKit.Source.Type

/-!
# Patterns

The patterns of the arms and loops and local names inside an expression.
-/

namespace SchemaKit.Source

open Reader

def patternStarts (ts : List Token) : List Wanted :=
  [.kind "identifier", .text "::", .text "<", .text "_", .kind "literal", .text "const",
    .text "ref", .text "mut", .text "&", .kind "parentheses", .kind "square brackets"] ++
    (if Token.startsWithMarks ".." ts then [] else [.text ".."]) ++ [.text "const"]

/-- What a bound of a range may begin with. -/
def rangeBoundStarts : List Wanted :=
  [.kind "literal", .kind "identifier", .text "::", .text "<", .text "self", .text "Self",
    .text "super", .text "crate", .text "const"]

/-- Whether tokens begin with a path that is more than a name. -/
def startsWithPatternPath (ts : List Token) : Bool :=
  let rest := Token.skip ts
  (Token.startsWithName ts &&
    (Token.startsWithMarks "::" rest || Token.startsWithMarks "!" rest ||
      Token.startsWithGroup .brace rest || Token.startsWithGroup .parenthesis rest ||
      Token.startsWithMarks ".." rest)) ||
    (Token.startsWithWord "self" ts && Token.startsWithMarks "::" rest) ||
    Token.startsWithMarks "::" ts || Token.startsWithMarks "<" ts ||
    startsWithOneOf ["Self", "super", "crate"] ts

/-- Whether a range in a pattern has no end in front of the tokens. -/
def endsPatternRange (ts : List Token) : Bool :=
  ts.isEmpty || Token.startsWithMarks "|" ts || Token.startsWithMarks "=" ts ||
    startsWithColon ts || Token.startsWithMarks "," ts || Token.startsWithMarks ";" ts ||
    Token.startsWithWord "if" ts

/-- Whether tokens begin with a bar between two patterns. -/
def startsWithBar (ts : List Token) : Bool :=
  Token.startsWithMarks "|" ts && !Token.startsWithMarks "||" ts && !Token.startsWithMarks "|=" ts

/-- Reads the points of a range, and tells whether its end belongs to it.  Three points may stand
for that in a pattern only. -/
def rangePoints (inPattern : Bool) : Reader Bool := do
  if ← marks? "..=" then return true
  if ← nextMarks "..." then
    if inPattern then marks "..." else expect [.text "..="]
    return true
  marks ".."
  return false

namespace Grammar

variable (g : Grammar)

/-- Reads a block that is evaluated beforehand. -/
def constantBlock : Reader Unit := do
  word "const"
  g.body

/-- Reads a bound of a range, and tells whether there is one. -/
def rangeBound : Reader Bool := do
  let ts ← tokens
  if endsPatternRange ts then return false
  if Token.startsWithLiteral ts then discard literal
  else if startsWithModuleName ts || Token.startsWithMarks "::" ts || Token.startsWithMarks "<" ts
  then discard (g.qualifiedPath true)
  else if Token.startsWithWord "const" ts then g.constantBlock
  else expect rangeBoundStarts
  return true

/-- Reads a range behind its lower bound. -/
def upperRange : Reader PatternShape := do
  let closed ← rangePoints true
  if ← g.rangeBound then return .other
  else if closed then expect [.kind "range upper bound"]
  else return .openRange

/-- Reads a range without a lower bound, or the points that stand for any more parts. -/
def lowerRange : Reader PatternShape := do
  let closed ← rangePoints false
  if ← g.rangeBound then return .openRange
  else if closed then expect [.kind "range upper bound"]
  else return .other

/-- Reads patterns with bars between them. -/
def alternatives : Reader PatternShape := do
  let barred ← marks? "|"
  let first ← g.pattern
  if !barred && !(← next startsWithBar) then return first
  repeating do
    if ← next startsWithBar then
      marks "|"
      discard g.pattern
      return true
    else return false
  return .other

/-- Reads the name or the number of a member, and tells whether it is a name. -/
def member : Reader Bool := do
  let ts ← tokens
  if Token.startsWithName ts then
    discard name
    return true
  else
    match Token.literal? ts with
    | some (.integer suffixed, rest) =>
      if suffixed then throw .suffixedIndex
      goTo rest
      return false
    | _ => expect [.kind "identifier", .kind "integer"]

def memberPattern : Reader Unit := do
  let boxed ← word? "box"
  let borrowed ← word? "ref"
  let changing ← word? "mut"
  if boxed || borrowed || changing then discard name
  else
    let isNamed ← member
    if !isNamed || (← nextMarks ":") then
      marks ":"
      discard g.alternatives

def structPattern : Reader Unit :=
  within .brace do
    repeating do
      if ← atEnd then return false
      discard g.attributes
      if ← marks? ".." then return false
      g.memberPattern
      if ← atEnd then return false
      marks ","
      return true

/-- Reads a pattern that begins with a path. -/
def pathPattern : Reader PatternShape := do
  let (isPlain, p) ← g.qualifiedPath true
  if isPlain && p.isPlain && (← nextMarks "!") && !(← nextMarks "!=") then
    marks "!"
    anyGroup
    return .other
  else if ← nextGroup .brace then
    g.structPattern
    return .other
  else if ← nextGroup .parenthesis then
    discard (within .parenthesis (commaSeparated g.alternatives))
    return .other
  else if ← nextMarks ".." then g.upperRange
  else return .other

/-- Reads a new name, and the pattern that it stands for if one follows. -/
def namePattern : Reader Unit := do
  discard (word? "ref")
  discard (word? "mut")
  if !(← word? "self") then discard name
  if ← marks? "@" then discard g.pattern

/-- Reads the pattern of a part of a slice. -/
def slicePart : Reader Unit := do
  match ← g.alternatives with
  | .openRange => throw .openRangeInSlice
  | .other => return

def readPattern : Reader PatternShape := do
  let ts ← tokens
  if startsWithPatternPath ts then g.pathPattern
  else if ← word? "_" then return .other
  else if ← word? "box" then
    discard g.pattern
    return .other
  else if Token.startsWithMarks "-" ts || Token.startsWithLiteral ts ||
      Token.startsWithWord "const" ts then
    discard g.rangeBound
    if ← nextMarks ".." then g.upperRange else return .other
  else if startsWithOneOf ["ref", "mut", "self"] ts || Token.startsWithName ts then
    g.namePattern
    return .other
  else if ← marks? "&" then
    discard (word? "mut")
    discard g.pattern
    return .other
  else if Token.startsWithGroup .parenthesis ts then
    discard (within .parenthesis (commaSeparated g.alternatives))
    return .other
  else if Token.startsWithGroup .bracket ts then
    discard (within .bracket (commaSeparated g.slicePart))
    return .other
  else if Token.startsWithMarks ".." ts && !Token.startsWithMarks "..." ts then g.lowerRange
  else expect (patternStarts ts)

end Grammar

end SchemaKit.Source
