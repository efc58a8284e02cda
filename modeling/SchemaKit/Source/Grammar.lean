import SchemaKit.Source.Reader

/-!
# The parts of the grammar that contain each other

Types hold bounds, bounds hold types, both hold expressions, and expressions hold types, patterns
and statements.  A `Grammar` has a reader for each of them; each part is then written by itself,
over a grammar that reads what it contains.

Nothing of what is read is kept, except for the little that decides what may follow it.
-/

namespace SchemaKit.Source

/-- What stands behind a word of a path. -/
inductive PathArguments
  | none
  | angled (isEmpty : Bool)
deriving DecidableEq

/-- Whether nothing is given in the arguments of a path. -/
def PathArguments.isEmpty : PathArguments → Bool
  | .none => true
  | .angled isEmpty => isEmpty

/-- A path: whether it begins at the root, the number of its words, whether all of them stand
without arguments, and the arguments of the last. -/
structure PathShape where
  rooted : Bool
  words : Nat
  isPlain : Bool
  last : PathArguments
deriving DecidableEq

def PathShape.push (p : PathShape) (arguments : PathArguments) : PathShape :=
  { p with words := p.words + 1, isPlain := p.isPlain && arguments = .none, last := arguments }

/-- A type.  A sum of bounds is single where it has one bound and no plus sign. -/
inductive TypeShape
  | path (p : PathShape)
  | bounds (isSingle : Bool)
  | other
deriving DecidableEq

inductive Bound
  | lifetime
  | capture
  | trait (isConst : Bool)
deriving DecidableEq

def Bound.isTrait : Bound → Bool
  | .trait _ => true
  | _ => false

/-- A pattern.  A range may be open at one end. -/
inductive PatternShape
  | openRange
  | other
deriving DecidableEq

/-- An expression.  A block, and a call with an exclamation mark and braces, is a statement by
itself. -/
inductive ExpressionShape
  | range
  | comparison
  | block
  | bracedCall
  | other
deriving DecidableEq

/-- Readers for what contains each other.  A type may be a sum of bounds or not.  A bound may be a
capture or constant or not.  An expression may have a structure in it or end in front of a brace;
one that begins with a block may end behind it. -/
structure Grammar where
  type : Bool → Reader TypeShape
  bound : Bool → Bool → Reader Bound
  pattern : Reader PatternShape
  expression : Bool → Reader Unit
  operand : Bool → Reader ExpressionShape
  operators : Bool → Nat → ExpressionShape → Reader ExpressionShape
  blockOrExpression : Reader ExpressionShape
  statements : Reader Unit

end SchemaKit.Source
