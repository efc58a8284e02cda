import SchemaKit.Source.Grammar

/-!
# Attributes

An attribute is a path in brackets behind a hash mark, perhaps with tokens in a group or a value
behind it.  What the tokens mean is for others to say.
-/

namespace SchemaKit.Source

/-- What stands behind the path of an attribute. -/
inductive AttributeBody
  | none
  | list (tokens : List Token)
  | value

/-- An attribute.  Its path is rooted where double colons stand in front of it. -/
structure Attribute where
  rooted : Bool
  path : List String
  body : AttributeBody

namespace Reader

/-- The keywords that may stand in a path of modules. -/
def moduleKeywords : List String :=
  ["super", "self", "Self", "crate"]

/-- Whether tokens begin with a word that may stand in a path of modules. -/
def startsWithModule : List Token → Bool
  | .word w :: _ => isName w || moduleKeywords.contains w
  | _ => false

/-- Reads a path of modules behind its first word, at most one word for each of some tokens. -/
def modulesOver : List Token → Reader (List String)
  | [] => return []
  | _ :: more => do
    if !(← marks? "::") then return []
    if ← next startsWithModule then
      let w ← anyWord
      return w :: (← modulesOver more)
    else expect [.kind "path segment after `::`"]

/-- Reads a path of modules, and tells whether it is rooted. -/
def modulePath : Reader (Bool × List String) := do
  let rooted ← marks? "::"
  let first ← if ← next startsWithModule then anyWord else name
  return (rooted, first :: (← modulesOver (← tokens)))

/-- Reads the path of an attribute.  The word that marks an attribute as one to take care with is a
path by itself. -/
def attributePath : Reader (Bool × List String) := do
  if ← word? "unsafe" then return (false, ["unsafe"]) else modulePath

def startsWithAttribute (ts : List Token) : Bool :=
  Token.startsWithMarks "#" ts && Token.startsWithGroup .bracket (ts.drop 1)

end Reader

namespace Grammar

open Reader

/-- Reads the value of an attribute: a literal by itself, or any expression. -/
def attributeValue (g : Grammar) : Reader Unit := do
  let isLiteral := match Token.literal? (← tokens) with
    | some (_, rest) => rest.isEmpty
    | none => false
  if isLiteral then goTo []
  else if ← next startsWithAttribute then throw .attributeInAttribute
  else g.expression true

def attributeBody (g : Grammar) : Reader AttributeBody := do
  match ← tokens with
  | .group _ inner :: rest => goTo rest; return .list inner
  | _ =>
    if ← marks? "=" then g.attributeValue; return .value
    else return .none

def attributeContent (g : Grammar) : Reader Attribute := do
  let (rooted, path) ← attributePath
  return { rooted, path, body := ← g.attributeBody }

def singleAttribute (g : Grammar) : Reader Attribute := do
  marks "#"
  within .bracket g.attributeContent

/-- Reads attributes, at most one for each of some tokens. -/
def attributesOver (g : Grammar) : List Token → Reader (List Attribute)
  | [] => return []
  | _ :: more => do
    if ← nextMarks "#" then
      let a ← g.singleAttribute
      return a :: (← g.attributesOver more)
    else return []

def attributes (g : Grammar) : Reader (List Attribute) := do
  g.attributesOver (← tokens)

/-- Whether tokens begin with an attribute of what they stand in. -/
def startsWithInner (ts : List Token) : Bool :=
  Token.startsWithMarks "#" ts && Token.startsWithMarks "!" (Token.skip ts)

/-- Reads the attributes of what they stand in. -/
def innerAttributes (g : Grammar) : Reader Unit :=
  repeating do
    if ← next startsWithInner then
      marks "#"
      marks "!"
      discard (within .bracket g.attributeContent)
      return true
    else return false

end Grammar

end SchemaKit.Source
