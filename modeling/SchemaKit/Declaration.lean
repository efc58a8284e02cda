import SchemaKit.Source.Scan
import SchemaKit.Source.Statement

/-!
# Declarations

The declaration of a structure, an enumeration or a union, as it is written in a source text.  It
has to be readable from its first token to the last, but only its name and the names and attributes
of named fields are kept: `Declaration.ofSource` reads a text.
-/

namespace SchemaKit

open Source Source.Reader

structure Field where
  name : String
  attributes : List Attribute

/-- What is declared. -/
inductive Body
  | fields (fields : List Field)
  | tuple
  | unit
  | enumeration
  | union

/-- A declaration that a record type may be derived from. -/
structure Declaration where
  name : String
  body : Body

namespace Declaration

/-- Whether tokens begin with a keyword that a path to a scope may consist of. -/
def startsWithScope : List Token → Bool :=
  startsWithOneOf ["crate", "self", "super"]

/-- Reads who may see an item.  Parentheses that name no scope belong to what follows. -/
def visibility : Reader Unit := do
  if ← word? "pub" then
    match ← tokens with
    | .group .parenthesis inner :: rest =>
      if startsWithScope inner && inner.length = 1 then goTo rest
      else if Token.startsWithWord "in" inner then
        discard <| Reader.within .parenthesis do
          word "in"
          modulePath
    | _ => return

/-- Reads the fields of a structure without a name of its own. -/
def nestedFields (field : Reader Field) : Reader Unit :=
  discard (Reader.within .brace (commaSeparated field))

def startsWithNested (ts : List Token) : Bool :=
  Token.startsWithWord "struct" ts ||
    (Token.startsWithWord "union" ts && Token.startsWithGroup .brace (Token.skip ts))

/-- Reads a named field, given how to read one inside it.  An underscore may stand for the name,
and then a structure without a name for the type. -/
def fieldWith (g : Grammar) (inner : Reader Field) : Reader Field := do
  let attributes ← g.attributes
  visibility
  let isUnnamed ← nextWord "_"
  let name ← if isUnnamed then anyWord else Reader.name
  marks ":"
  if isUnnamed && startsWithNested (← tokens) then
    discard anyWord
    nestedFields inner
  else discard (g.type true)
  return { name, attributes }

/-- Reads a named field of what nests at most as deep as the given number. -/
def fieldWithin (g : Grammar) : Nat → Reader Field
  | 0 => throw .noTokens
  | n + 1 => fieldWith g (fieldWithin g n)

def tupleField (g : Grammar) : Reader Unit := do
  discard g.attributes
  visibility
  discard (g.type true)

structure Parts where
  grammar : Grammar
  field : Reader Field

namespace Parts

variable (p : Parts)

def fields : Reader (List Field) :=
  Reader.within .brace (commaSeparated p.field)

def tuple : Reader Unit :=
  discard (Reader.within .parenthesis (commaSeparated (tupleField p.grammar)))

/-- Reads conditions if they come next, and tells whether they did. -/
def conditions? : Reader Bool := do
  if ← nextWord "where" then p.grammar.conditions; return true else return false

def variant : Reader Unit := do
  discard p.grammar.attributes
  visibility
  discard Reader.name
  if ← nextGroup .brace then discard p.fields
  else if ← nextGroup .parenthesis then p.tuple
  if ← marks? "=" then p.grammar.expression true

def structBody : Reader Body := do
  let conditioned ← p.conditions?
  if !conditioned && (← nextGroup .parenthesis) then
    p.tuple
    let conditioned ← p.conditions?
    if ← marks? ";" then return .tuple
    else expect ((if conditioned then [] else [.text "where"]) ++ [.text ";"])
  else if ← nextGroup .brace then return .fields (← p.fields)
  else if ← marks? ";" then return .unit
  else
    expect ((if conditioned then [] else [.text "where", .kind "parentheses"]) ++
      [.kind "curly braces", .text ";"])

def enumBody : Reader Body := do
  discard p.conditions?
  discard (Reader.within .brace (commaSeparated p.variant))
  return .enumeration

def unionBody : Reader Body := do
  discard p.conditions?
  discard p.fields
  return .union

/-- Reads a name and its parameters, and the body that follows. -/
def named (body : Reader Body) : Reader Declaration := do
  discard anyWord
  let name ← Reader.name
  p.grammar.parameters
  return { name, body := ← body }

def declaration : Reader Declaration := do
  discard p.grammar.attributes
  visibility
  if ← nextWord "struct" then p.named p.structBody
  else if ← nextWord "enum" then p.named p.enumBody
  else if ← nextWord "union" then p.named p.unionBody
  else expect [.text "struct", .text "enum", .text "union"]

end Parts

/-- The readers for a certain number of tokens.  No more levels nest in them than there are tokens,
and no level takes more than three steps. -/
def Parts.ofCount (n : Nat) : Parts :=
  let grammar := Grammar.ofDepth (3 * n + 3)
  { grammar, field := fieldWithin grammar (n + 1) }

def ofTokens (ts : List Token) : Except SourceError Declaration :=
  readAll (Parts.ofCount (Token.countAll ts)).declaration ts

def ofSource (text : String) : Except SourceError Declaration :=
  match scan text with
  | some ts => ofTokens ts
  | none => .error .noTokens

end Declaration

end SchemaKit
