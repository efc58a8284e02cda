import SchemaKit.Statement
import SchemaKit.Text.Blank
import SchemaKit.Text.Casing

/-!
# Compression

ALTER TABLE that turns on the compression of a hypertable, with the columns to segment by and the
order of the rows within a segment.  An entry of the order is a column and perhaps a direction and
the place of nulls, in any case; it is checked word by word and stands in the text as it came.
-/

namespace SchemaKit

/-- A hypertable whose compression is to be turned on. -/
structure Compression where
  table : String
  schema : String := defaultSchema
  segmentBy : List String := []
  orderBy : List String := []

namespace Compression

open Statement

/-- What may follow a column in an entry of the order, in upper case. -/
def directions : List (List (List Char)) :=
  [[], ["ASC"], ["DESC"], ["NULLS", "FIRST"], ["NULLS", "LAST"], ["ASC", "NULLS", "FIRST"],
    ["ASC", "NULLS", "LAST"], ["DESC", "NULLS", "FIRST"], ["DESC", "NULLS", "LAST"]].map
      fun d => d.map String.toList

/-- Whether words are a direction and a place of nulls, either of which may be missing. -/
def isDirection (ws : List (List Char)) : Bool :=
  directions.contains (ws.map Text.upperChars)

/-- Checks an entry of the order.  A bad column is refused by itself, bad words with all of the
entry. -/
def checkOrder (entry : String) : Except Sql.Rejection Unit := do
  let ws := Text.words entry.toList
  let _ ← Sql.Identifier.check (String.ofList (ws.headD []))
  unless isDirection ws.tail do throw (.invalidIdentifier entry)

/-- Checks entries in order and stops at the first bad one. -/
def checkOrders : List String → Except Sql.Rejection Unit
  | [] => .ok ()
  | entry :: entries =>
    match checkOrder entry with
    | .ok _ => checkOrders entries
    | .error r => .error r

/-- A setting that holds a list, or nothing for the empty list. -/
def setting (key : String) (entries : List String) : List String :=
  -- checked entries hold no quote, so the literal needs no more than the quotes around it
  if entries.isEmpty then [] else [key ++ " = '" ++ ",".intercalate entries ++ "'"]

def text (s : Compression) : String :=
  "ALTER TABLE " ++ qualified s.schema s.table ++ " SET (" ++
    commaList ("timescaledb.compress" :: (setting "timescaledb.compress_segmentby" s.segmentBy ++
      setting "timescaledb.compress_orderby" s.orderBy)) ++ ")"

def build (s : Compression) : Except BuildError Statement := do
  names [s.table, s.schema]
  names s.segmentBy
  fragment (checkOrders s.orderBy)
  return ⟨s.text, []⟩

end Compression

end SchemaKit
