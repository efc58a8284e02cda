import SchemaKit.Value

/-!
# Rows

A row is a map from column names to values that keeps the order in which its columns first came.
`Row.insert` puts a new column at the end and replaces the value of an old one in its place, so no
name ever stands twice; `Row.getThenInsert?` also gives the value that was there before.
-/

namespace SchemaKit

/-- A map from column names to values, in the order in which the columns came. -/
structure Row where
  entries : List (String × Value)
  nodup : (entries.map Prod.fst).Nodup

namespace Row

/-- The entries with a column set to a value: in its place, or at the end if it is new. -/
def setEntry (column : String) (value : Value) :
    List (String × Value) → List (String × Value)
  | [] => [(column, value)]
  | e :: rest =>
    if e.1 = column then (column, value) :: rest else e :: setEntry column value rest

theorem map_fst_setEntry (column : String) (value : Value) (es : List (String × Value)) :
    (setEntry column value es).map Prod.fst =
      if column ∈ es.map Prod.fst then es.map Prod.fst else es.map Prod.fst ++ [column] := by
  induction es with
  | nil => simp [setEntry]
  | cons e rest ih =>
    by_cases h : e.1 = column
    · simp [setEntry, h]
    · have h' : column ≠ e.1 := fun hc => h hc.symm
      simp only [setEntry, if_neg h, List.map_cons, ih, List.mem_cons, h', false_or]
      split <;> simp

theorem nodup_setEntry {column : String} {value : Value} {es : List (String × Value)}
    (h : (es.map Prod.fst).Nodup) : ((setEntry column value es).map Prod.fst).Nodup := by
  rw [map_fst_setEntry]
  split
  · exact h
  · rename_i hm
    exact List.nodup_append.2 ⟨h, by simp, fun a ha b hb => by
      rw [List.mem_singleton.1 hb]
      rintro rfl
      exact hm ha⟩

def empty : Row := ⟨[], by simp⟩

instance : EmptyCollection Row := ⟨empty⟩
instance : Inhabited Row := ⟨empty⟩

def get? (row : Row) (column : String) : Option Value :=
  (row.entries.find? fun e => e.1 = column).map Prod.snd

/-- The value of a column, or null if the row does not have it. -/
def getD (row : Row) (column : String) : Value :=
  (row.get? column).getD .null

/-- Sets a column to a value: in its place, or at the end if it is new. -/
def insert (row : Row) (column : String) (value : Value) : Row :=
  ⟨setEntry column value row.entries, nodup_setEntry row.nodup⟩

/-- The value of a column among entries, and the entries with the column set to another value. -/
def exchangeEntry (column : String) (value : Value) :
    List (String × Value) → Option Value × List (String × Value)
  | [] => (none, [(column, value)])
  | e :: rest =>
    if e.1 = column then (some e.2, (column, value) :: rest)
    else
      let r := exchangeEntry column value rest
      (r.1, e :: r.2)

theorem snd_exchangeEntry (column : String) (value : Value) (es : List (String × Value)) :
    (exchangeEntry column value es).2 = setEntry column value es := by
  induction es with
  | nil => rfl
  | cons e rest ih =>
    by_cases h : e.1 = column
    · rw [exchangeEntry, setEntry, if_pos h, if_pos h]
    · rw [exchangeEntry, setEntry, if_neg h, if_neg h, ← ih]

/-- Sets a column to a value, and gives the value that the column had. -/
def getThenInsert? (row : Row) (column : String) (value : Value) : Option Value × Row :=
  let r := exchangeEntry column value row.entries
  (r.1, ⟨r.2, by rw [snd_exchangeEntry]; exact nodup_setEntry row.nodup⟩)

/-- The row of the given columns, set one after the other. -/
def ofList (pairs : List (String × Value)) : Row :=
  pairs.foldl (fun row p => row.insert p.1 p.2) empty

/-- The row of a map, in ascending order of the column names.  Of two entries of one name the later
one counts. -/
def ofMap (pairs : List (String × Value)) : Row :=
  ofList ((ofList pairs).entries.mergeSort fun a b => a.1 ≤ b.1)

def columns (row : Row) : List String :=
  row.entries.map Prod.fst

def size (row : Row) : Nat :=
  row.entries.length

def isEmpty (row : Row) : Bool :=
  row.entries.isEmpty

/-- Equality of columns and values, in order. -/
instance : BEq Row := ⟨fun a b => a.entries == b.entries⟩

@[simp] theorem entries_empty : empty.entries = [] := rfl

@[simp] theorem entries_insert (row : Row) (column : String) (value : Value) :
    (row.insert column value).entries = setEntry column value row.entries := rfl

@[ext] theorem ext {a b : Row} (h : a.entries = b.entries) : a = b := by
  cases a
  cases b
  cases h
  rfl

end Row

end SchemaKit
