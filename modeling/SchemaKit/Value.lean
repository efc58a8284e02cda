import SchemaKit.Calendar
import SchemaKit.Json

/-!
# Values

A value that travels to or from a database: bound as a parameter or read back from a row.  The
readers (`int?`, `text?`, …) give what a value holds and nothing for a value of another kind;
`float?` also widens an integer and `moment?` also takes a timestamp without a zone as one in UTC.
-/

namespace SchemaKit

structure Uuid where
  bits : BitVec 128
deriving DecidableEq

/-- A value of a column or parameter. -/
inductive Value
  | null
  | bool (b : Bool)
  | int (n : Int64)
  | float (x : Float)
  | text (s : String)
  | json (doc : Json)
  | uuid (id : Uuid)
  | date (d : Date)
  | timestamp (t : Timestamp)
  | timestamptz (t : Timestamp)
  | bytes (b : List UInt8)

namespace Value

/-- Equality of values of one kind.  Values of different kinds differ, and floats are compared as
numbers, so that not-a-number differs from itself. -/
def beq : Value → Value → Bool
  | null, null => true
  | bool a, bool b => a == b
  | int a, int b => a == b
  | float a, float b => a == b
  | text a, text b => a == b
  | json a, json b => a == b
  | uuid a, uuid b => a == b
  | date a, date b => a == b
  | timestamp a, timestamp b => a == b
  | timestamptz a, timestamptz b => a == b
  | bytes a, bytes b => a == b
  | _, _ => false

instance : BEq Value := ⟨beq⟩

/-- The name of a value's kind. -/
def kind : Value → String
  | null => "null"
  | bool _ => "bool"
  | int _ => "int"
  | float _ => "float"
  | text _ => "text"
  | json _ => "json"
  | uuid _ => "uuid"
  | date _ => "date"
  | timestamp _ => "timestamp"
  | timestamptz _ => "timestamptz"
  | bytes _ => "bytes"

/-- Whether a value is the null of SQL.  A null document is not. -/
def isNull : Value → Bool
  | null => true
  | _ => false

def int? : Value → Option Int64
  | int n => some n
  | _ => none

/-- The float a value holds.  An integer is widened to the nearest float. -/
def float? : Value → Option Float
  | float x => some x
  | int n => some n.toFloat
  | _ => none

def bool? : Value → Option Bool
  | bool b => some b
  | _ => none

def text? : Value → Option String
  | text s => some s
  | _ => none

/-- The moment a value holds.  A timestamp without a zone is taken to be in UTC. -/
def moment? : Value → Option Timestamp
  | timestamptz t => some t
  | timestamp t => some t
  | _ => none

/-- What a host type becomes when it is bound. -/
class ToValue (α : Type) where
  toValue : α → Value

export ToValue (toValue)

instance : ToValue Value := ⟨id⟩
instance : ToValue Bool := ⟨bool⟩
instance : ToValue Int16 := ⟨fun n => int n.toInt64⟩
instance : ToValue Int32 := ⟨fun n => int n.toInt64⟩
instance : ToValue Int64 := ⟨int⟩
instance : ToValue UInt32 := ⟨fun n => int n.toUInt64.toInt64⟩
instance : ToValue Float32 := ⟨fun x => float x.toFloat⟩
instance : ToValue Float := ⟨float⟩
instance : ToValue String := ⟨text⟩
instance : ToValue Json := ⟨json⟩
instance : ToValue Uuid := ⟨uuid⟩
instance : ToValue Date := ⟨date⟩
instance : ToValue (List UInt8) := ⟨bytes⟩

/-- An absent value is bound as the null of SQL. -/
instance {α : Type} [ToValue α] : ToValue (Option α) :=
  ⟨fun v => (v.map toValue).getD null⟩

end Value

end SchemaKit
