import SchemaKit.Declaration
import SchemaKit.Row

/-!
# Records

A record type says which field of a structure goes into which column.  It is derived from the
structure's declaration: every field is a column of its own name, unless an attribute of the field
renames the column or skips the field.  `Declaration.derive` goes through fields, attributes and
their items in order and stops at the first that it cannot read.
-/

namespace SchemaKit

open Source

/-- A field and the column it goes into. -/
structure Binding where
  column : String
  field : String
deriving DecidableEq

/-- The columns of a record type, each with its field, in the order of declaration. -/
structure RecordType where
  bindings : List Binding
deriving DecidableEq

/-- Why no record type can be derived. -/
inductive DeriveError
  | source (e : SourceError)
  | notAStruct
  | noNamedFields
  | noColumns
  | missingItems
  | missingParentheses
deriving DecidableEq

def DeriveError.message : DeriveError → String
  | .source e => e.message
  | .notAStruct => "Record can only be derived for structs"
  | .noNamedFields => "Record can only be derived for structs with named fields"
  | .noColumns => "Record needs at least one column"
  | .missingItems => "expected attribute arguments in parentheses: #[row(...)]"
  | .missingParentheses => "expected parentheses: #[row(...)]"

namespace RecordType

def columns (r : RecordType) : List String :=
  r.bindings.map Binding.column

/-- The row of a record, given the value of each field.  Where two fields go into one column, the
later one counts. -/
def toRow (r : RecordType) (value : String → Value) : Row :=
  Row.ofList (r.bindings.map fun b => (b.column, value b.field))

end RecordType

/-! ### Items -/

/-- What an attribute says of the column of a field. -/
inductive ColumnItem
  | rename (column : String)
  | skip
deriving DecidableEq

namespace ColumnItem

/-- The words of a path behind its first word, and what follows the path.  `isLast` is set where no
comma follows the tokens. -/
def moreWords (isLast : Bool) : List Token → Except SourceError (List String × List Token)
  | .mark ':' true :: .mark ':' _ :: .word w :: ts => do
    let (ws, rest) ← moreWords isLast ts
    return (w :: ws, rest)
  | .mark ':' true :: .mark ':' _ :: ts =>
    .error (.expected (isLast && ts.isEmpty) [.kind "ident"])
  | ts => .ok ([], ts)

/-- The words of a path of any words, and what follows the path. -/
def words (isLast : Bool) : List Token → Except SourceError (List String × List Token)
  | .word w :: ts => do
    let (ws, rest) ← moreWords isLast ts
    return (w :: ws, rest)
  | [] => .error (if isLast then .expected true [.kind "nested attribute"] else .strayItem)
  | ts => .error (if Token.startsWithLiteral ts then .literalItem else .strayItem)

/-- The column that a field is renamed to, and what follows.  A text stands behind an equals
sign. -/
def newName (isLast : Bool) (ts : List Token) : Except SourceError (String × List Token) :=
  match Token.afterMarks ['='] ts with
  | some value =>
    match Token.literal? value with
    | some (.text s, rest) => .ok (s, rest)
    | _ => .error (.expected (isLast && value.isEmpty) [.kind "string literal"])
  | none => .error (.expected false [.text "="])

/-- The item that tokens begin with, and what follows.  A rooted path is the path of no item. -/
def read (isLast : Bool) (ts : List Token) : Except SourceError (ColumnItem × List Token) := do
  let rooted := Token.afterMarks [':', ':'] ts
  let (path, rest) ← words isLast (rooted.getD ts)
  if rooted.isNone && path = ["rename"] then
    let (column, rest) ← newName isLast rest
    return (.rename column, rest)
  else if rooted.isNone && path = ["skip"] then return (.skip, rest)
  else throw (.expected false [.text "rename", .text "skip"])

/-- The item that tokens between two commas are. -/
def ofTokens (isLast : Bool) (ts : List Token) : Except SourceError ColumnItem := do
  let (item, rest) ← read isLast ts
  if rest.isEmpty then return item else throw (.expected false [.text ","])

/-- The items that tokens between commas are.  Behind the last comma none has to stand. -/
def ofPieces : List (List Token) → Except SourceError (List ColumnItem)
  | [] | [[]] => .ok []
  | piece :: rest => do
    let item ← ofTokens rest.isEmpty piece
    return item :: (← ofPieces rest)

def isComma : Token → Bool
  | .mark ',' _ => true
  | _ => false

def listOf (ts : List Token) : Except SourceError (List ColumnItem) :=
  ofPieces (ts.splitOnP isComma)

/-- What an attribute says of the column of a field.  Only attributes of the path `row` say
anything. -/
def ofAttribute (a : Attribute) : Except DeriveError (List ColumnItem) :=
  if !a.rooted && a.path = ["row"] then
    match a.body with
    | .list ts => (listOf ts).mapError .source
    | .value => .error .missingParentheses
    | .none => .error .missingItems
  else .ok []

end ColumnItem

/-! ### Columns -/

/-- The column of a field, unless the field is skipped. -/
structure Column where
  name : String
  skip : Bool := false
deriving DecidableEq

/-- A column as an item changes it. -/
def Column.apply (c : Column) : ColumnItem → Column
  | .rename name => { c with name }
  | .skip => { c with skip := true }

namespace Field

/-- A name without the marks of a raw word in front of it. -/
def dropRaw : List Char → List Char
  | 'r' :: '#' :: rest => dropRaw rest
  | cs => cs

/-- The column of a field before anything is said of it. -/
def column (f : Field) : Column :=
  { name := String.ofList (dropRaw f.name.toList) }

/-- The column of a field, unless the field is skipped. -/
def binding (f : Field) : Except DeriveError (Option Binding) := do
  let items ← f.attributes.mapM ColumnItem.ofAttribute
  let column := items.flatten.foldl Column.apply f.column
  return if column.skip then none else some ⟨column.name, f.name⟩

end Field

/-- The record type of a declaration. -/
def Declaration.derive (d : Declaration) : Except DeriveError RecordType := do
  match d.body with
  | .fields fields =>
    let bindings := (← fields.mapM Field.binding).filterMap id
    if bindings.isEmpty then throw .noColumns
    return ⟨bindings⟩
  | .tuple | .unit => throw .noNamedFields
  | .enumeration | .union => throw .notAStruct

/-- The record type of the declaration that a source text holds. -/
def RecordType.ofSource (text : String) : Except DeriveError RecordType := do
  (← (Declaration.ofSource text).mapError .source).derive

end SchemaKit
