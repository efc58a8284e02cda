import SchemaKit.Source.Token

/-!
# Errors in a source text

`SourceError` lists why a source text cannot be read, and `SourceError.message` is its wording.
Most errors tell what could have stood at a place where something else stands, or nothing any
more.
-/

namespace SchemaKit.Source

/-- What may stand at a place: a certain text, or something of a kind. -/
inductive Wanted
  | text (s : String)
  | kind (name : String)
deriving DecidableEq

def Wanted.message : Wanted → String
  | .text s => "`" ++ s ++ "`"
  | .kind name => name

/-- The wording of a choice. -/
def Wanted.choice : List Wanted → String
  | [] => ""
  | [a] => "expected " ++ a.message
  | [a, b] => "expected " ++ a.message ++ " or " ++ b.message
  | wanted => "expected one of: " ++ ", ".intercalate (wanted.map Wanted.message)

/-- Why a source text cannot be read.  `atEnd` is set where nothing at all follows, and `scope` is
the group around a token that is left over. -/
inductive SourceError
  | noTokens
  | expected (atEnd : Bool) (wanted : List Wanted)
  | leftOver (scope : Option Delimiter)
  | keyword (word : String)
  | literalItem
  | strayItem
  | attributeInAttribute
  | noTraitInObject
  | noTrait
  | captureNotAllowed
  | constNotAllowed (bracketed : Bool)
  | binderOnOptional
  | chainedComparison
  | castFollowed (what : String)
  | suffixedIndex
  | attributeOnRange
  | labelledBreak
  | openRangeInSlice
  | missingSemicolon
deriving DecidableEq

/-- The end of the group that a token is left over in. -/
def closingText : Option Delimiter → String
  | none => ""
  | some .parenthesis => ", expected `)`"
  | some .bracket => ", expected `]`"
  | some .brace => ", expected `\x7d`"

def SourceError.message : SourceError → String
  | .noTokens => "cannot parse string into token stream"
  | .expected true [] => "unexpected end of input"
  | .expected false [] => "unexpected token"
  | .expected true wanted => "unexpected end of input, " ++ Wanted.choice wanted
  | .expected false wanted => Wanted.choice wanted
  | .leftOver scope => "unexpected token" ++ closingText scope
  | .keyword word => "expected identifier, found keyword `" ++ word ++ "`"
  | .literalItem => "unexpected literal in nested attribute, expected ident"
  | .strayItem => "unexpected token in nested attribute, expected ident"
  | .attributeInAttribute => "unexpected attribute inside of attribute"
  | .noTraitInObject => "at least one trait is required for an object type"
  | .noTrait => "at least one trait must be specified"
  | .captureNotAllowed => "`use<...>` precise capturing syntax is not allowed here"
  | .constNotAllowed true => "`[const]` is not allowed here"
  | .constNotAllowed false => "`const` is not allowed here"
  | .binderOnOptional => "`for<...>` binder not allowed with `?` trait polarity modifier"
  | .chainedComparison => "comparison operators cannot be chained"
  | .castFollowed what => "casts cannot be followed by " ++ what
  | .suffixedIndex => "expected unsuffixed integer"
  | .attributeOnRange => "attributes are not allowed on range expressions starting with `..`"
  | .labelledBreak => "parentheses required"
  | .openRangeInSlice => "range pattern is not allowed unparenthesized inside slice pattern"
  | .missingSemicolon => "unexpected token, expected `;`"

end SchemaKit.Source
