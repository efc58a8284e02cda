import SchemaKit.Source.Error

/-!
# Reading tokens

A `Reader` goes through tokens from left to right and fails at the first that cannot stand where it
does.  What is left over at the end of a group is no reason to stop: the place of the first such
token is kept, and reported when all else could be read.
-/

namespace SchemaKit.Source

/-- How far a source text is read: the tokens that are left in the group that is being read, and the
group of the first token that was left over, if there is one. -/
structure Cursor where
  rest : List Token
  leftOver : Option Delimiter := none

/-- Reads tokens, unless it fails. -/
abbrev Reader := StateT Cursor (Except SourceError)

namespace Reader

variable {α : Type}

def tokens : Reader (List Token) := do
  return (← get).rest

/-- Whether a condition holds of the tokens that are left. -/
def next (p : List Token → Bool) : Reader Bool := do
  return p (← get).rest

def atEnd : Reader Bool :=
  next List.isEmpty

def nextMarks (run : String) : Reader Bool :=
  next (Token.startsWithMarks run)

def nextWord (text : String) : Reader Bool :=
  next (Token.startsWithWord text)

def nextGroup (d : Delimiter) : Reader Bool :=
  next (Token.startsWithGroup d)

/-- Goes on with the given tokens. -/
def goTo (rest : List Token) : Reader Unit :=
  modify fun c => { c with rest }

/-- Fails for want of something else at this place. -/
def expect (wanted : List Wanted) : Reader α := do
  throw (.expected (← atEnd) wanted)

def marks (run : String) : Reader Unit := do
  match Token.afterMarks run.toList (← tokens) with
  | some rest => goTo rest
  | none => throw (.expected false [.text run])

/-- Reads a run of marks if it comes next, and tells whether it did. -/
def marks? (run : String) : Reader Bool := do
  match Token.afterMarks run.toList (← tokens) with
  | some rest => goTo rest; return true
  | none => return false

/-- Reads one of some runs of marks if one comes next, and tells whether it did. -/
def oneOfMarks? : List String → Reader Bool
  | [] => return false
  | run :: runs => do
    if ← marks? run then return true else oneOfMarks? runs

def word (text : String) : Reader Unit := do
  match ← tokens with
  | .word w :: rest => if w = text then goTo rest else expect [.text text]
  | _ => expect [.text text]

def word? (text : String) : Reader Bool := do
  if ← nextWord text then word text; return true else return false

def oneOfWords? : List String → Reader Bool
  | [] => return false
  | text :: texts => do
    if ← word? text then return true else oneOfWords? texts

def anyWord : Reader String := do
  match ← tokens with
  | .word w :: rest => goTo rest; return w
  | _ => expect [.kind "ident"]

def name : Reader String := do
  match ← tokens with
  | .word w :: rest => if isName w then goTo rest; return w else throw (.keyword w)
  | _ => expect [.kind "identifier"]

def lifetime : Reader Unit := do
  if ← next Token.startsWithLifetime then goTo (Token.skip (← tokens))
  else expect [.kind "lifetime"]

def literal : Reader Literal := do
  match Token.literal? (← tokens) with
  | some (v, rest) => goTo rest; return v
  | none => expect [.kind "literal"]

def text : Reader String := do
  match Token.literal? (← tokens) with
  | some (.text s, rest) => goTo rest; return s
  | _ => expect [.kind "string literal"]

/-- The wording of a group. -/
def groupName : Delimiter → String
  | .parenthesis => "parentheses"
  | .bracket => "square brackets"
  | .brace => "curly braces"

/-- Takes a group out of the tokens, whose tokens are given. -/
def group (d : Delimiter) : Reader (List Token) := do
  match ← tokens with
  | .group e inner :: rest =>
    if e = d then goTo rest; return inner else expect [.kind (groupName d)]
  | _ => expect [.kind (groupName d)]

def anyGroup : Reader Unit := do
  match ← tokens with
  | .group _ _ :: rest => goTo rest
  | _ => expect [.kind "delimiter"]

/-- Reads the given tokens, which stand in a group, and notes whether one is left over. -/
def inside (d : Delimiter) (inner : List Token) (read : Reader α) : Reader α := do
  let outer ← tokens
  goTo inner
  let a ← read
  let done ← atEnd
  -- the first token that is left over counts, in whatever group it stands
  modify fun c => { rest := outer, leftOver := if done then c.leftOver else c.leftOver <|> some d }
  return a

/-- Reads a group. -/
def within (d : Delimiter) (read : Reader α) : Reader α := do
  inside d (← group d) read

/-! ### Repetition

A repetition takes no more steps than there are tokens, and one more in which it ends, since each
step that goes on reads a token.  The tokens themselves count the steps. -/

/-- Repeats a step from a value on until it has nothing more to do, at most once for each of some
tokens and once more. -/
def iterateOver (step : α → Reader (Option α)) : List Token → α → Reader α
  | [], a => do return (← step a).getD a
  | _ :: more, a => do
    match ← step a with
    | some b => iterateOver step more b
    | none => return a

/-- Repeats a step from a value on until it has nothing more to do. -/
def iterate (step : α → Reader (Option α)) (a : α) : Reader α := do
  iterateOver step (← tokens) a

/-- Repeats a step until it tells to stop. -/
def repeating (step : Reader Bool) : Reader Unit :=
  iterate (fun _ => do return if ← step then some () else none) ()

/-- Reads items with commas between them, at most one for each of some tokens. -/
def commaSeparatedOver (item : Reader α) : List Token → Reader (List α)
  | [] => return []
  | _ :: more => do
    if ← atEnd then return []
    let a ← item
    if ← atEnd then return [a]
    marks ","
    return a :: (← commaSeparatedOver item more)

/-- Reads items with commas between them up to the end of the group.  A comma may stand behind the
last item. -/
def commaSeparated (item : Reader α) : Reader (List α) := do
  commaSeparatedOver item (← tokens)

/-- What is read of tokens that stand in no group.  A token that is left over in a group comes
first. -/
def readAll (read : Reader α) (ts : List Token) : Except SourceError α := do
  let (a, c) ← read.run { rest := ts }
  match c.leftOver with
  | some d => throw (.leftOver (some d))
  | none => if c.rest.isEmpty then return a else throw (.leftOver none)

end Reader

end SchemaKit.Source
