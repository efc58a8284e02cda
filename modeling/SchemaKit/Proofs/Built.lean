import SchemaKit.Proofs.Bookkeeping
import SchemaKit.Proofs.Building
import SchemaKit.Statement.Compression
import SchemaKit.Statement.Hypertable
import SchemaKit.Statement.Index
import SchemaKit.Statement.Select

/-!
# Built statements and tracking tables

Every builder writes a dot between a schema and a table, or colons before the type of a table that it
binds.  The statements of a tracking table have neither, since its name is an identifier, so nothing
that is built is taken for one of them (`TrackingOp.ofStatement_of_built`), whatever trusted text it
holds.
-/

namespace SchemaKit

open Sql

namespace Statement

theorem fragment_eq_ok_iff {α : Type} {x : Except Rejection α} {a : α} :
    fragment x = .ok a ↔ x = .ok a := by
  cases x <;> simp [fragment]

/-! ## Dots and colons -/

/-- Whether a dot or a colon stands in a text. -/
def isPointed (text : String) : Bool :=
  text.toList.any fun c => c = '.' || c = ':'

theorem isPointed_append (a b : String) : isPointed (a ++ b) = (isPointed a || isPointed b) := by
  rw [isPointed, String.toList_append, List.any_append]
  rfl

theorem isPointed_qualified (schema table : String) : isPointed (qualified schema table) = true := by
  have hdot : isPointed "." = true := by decide
  rw [qualified, isPointed_append, isPointed_append, hdot, Bool.or_true, Bool.true_or]

theorem isPointed_of_isIdentifier {name : String} (h : Identifier.isIdentifier name = true) :
    isPointed name = false := by
  rw [isPointed, List.any_eq_false]
  intro c hc
  have hpart := Identifier.isPart_of_isIdentifier h c hc
  simp only [Bool.or_eq_true, decide_eq_true_eq]
  rintro (rfl | rfl) <;> exact absurd hpart (by decide)

end Statement

/-! ## What builders give -/

section Builders

open Statement

variable {q : Statement}

theorem Select.of_build {s : Select} (h : s.build = .ok q) :
    names [s.table, s.schema] = .ok () ∧ names s.columns = .ok () ∧
      q = ⟨s.text, (s.condition.map Prod.snd).getD []⟩ := by
  obtain ⟨⟨⟩, htable, h⟩ := exists_of_bind h
  obtain ⟨⟨⟩, hcolumns, h⟩ := exists_of_bind h
  exact ⟨htable, hcolumns, (Except.ok.inj h).symm⟩

theorem Index.of_build {s : Index} (h : s.build = .ok q) :
    names [s.table, s.schema] = .ok () ∧ s.columns ≠ [] ∧ names s.columns = .ok () ∧
      names s.name.toList = .ok () ∧
      ∃ method, fragment (IndexMethod.check s.method) = .ok method ∧ q = ⟨s.text method, []⟩ := by
  obtain ⟨⟨⟩, htable, h⟩ := exists_of_bind h
  split at h
  · cases h
  · rename_i hcolumns
    obtain ⟨⟨⟩, hnames, h⟩ := exists_of_bind h
    obtain ⟨⟨⟩, hname, h⟩ := exists_of_bind h
    obtain ⟨method, hmethod, h⟩ := exists_of_bind h
    refine ⟨htable, fun hc => hcolumns ?_, hnames, hname, method, hmethod, (Except.ok.inj h).symm⟩
    rw [hc]
    rfl

theorem Hypertable.of_build {s : Hypertable} (h : s.build = .ok q) :
    names [s.table, s.schema, s.timeColumn] = .ok () ∧
      ∃ interval, fragment (Interval.check s.chunkInterval) = .ok interval ∧
        q = ⟨s.text interval, [relation s.schema s.table, .text s.timeColumn]⟩ := by
  obtain ⟨⟨⟩, hnames, h⟩ := exists_of_bind h
  obtain ⟨interval, hinterval, h⟩ := exists_of_bind h
  exact ⟨hnames, interval, hinterval, (Except.ok.inj h).symm⟩

theorem Policy.of_build {p : Policy} {schema table age : String}
    (h : p.build schema table age = .ok q) :
    names [table, schema] = .ok () ∧
      ∃ interval, fragment (Interval.check age) = .ok interval ∧
        q = ⟨p.text interval, [relation schema table]⟩ := by
  obtain ⟨⟨⟩, hnames, h⟩ := exists_of_bind h
  obtain ⟨interval, hinterval, h⟩ := exists_of_bind h
  exact ⟨hnames, interval, hinterval, (Except.ok.inj h).symm⟩

theorem Compression.of_build {s : Compression} (h : s.build = .ok q) :
    names [s.table, s.schema] = .ok () ∧ names s.segmentBy = .ok () ∧
      fragment (checkOrders s.orderBy) = .ok () ∧ q = ⟨s.text, []⟩ := by
  obtain ⟨⟨⟩, htable, h⟩ := exists_of_bind h
  obtain ⟨⟨⟩, hsegments, h⟩ := exists_of_bind h
  obtain ⟨⟨⟩, horders, h⟩ := exists_of_bind h
  exact ⟨htable, hsegments, horders, (Except.ok.inj h).symm⟩

end Builders

/-! ## The texts of builders -/

namespace Statement

/-- A statement that some builder gives. -/
inductive Built : Statement → Prop
  | insert {s : Insert} {row : Row} {q : Statement} (h : s.build row = .ok q) : Built q
  | insertBatch {s : Insert} {rows : List Row} {q : Statement} (h : s.buildBatch rows = .ok q) :
    Built q
  | select {s : Select} {q : Statement} (h : s.build = .ok q) : Built q
  | index {s : Index} {q : Statement} (h : s.build = .ok q) : Built q
  | hypertable {s : Hypertable} {q : Statement} (h : s.build = .ok q) : Built q
  | compression {s : Compression} {q : Statement} (h : s.build = .ok q) : Built q
  | policy {p : Policy} {schema table interval : String} {q : Statement}
    (h : p.build schema table interval = .ok q) : Built q

theorem isPointed_insert (s : Insert) (rows : Nat) : isPointed (s.text rows) = true := by
  delta Insert.text
  simp only [isPointed_append, isPointed_qualified, Bool.or_true, Bool.true_or]

theorem isPointed_select (s : Select) : isPointed s.text = true := by
  delta Select.text
  simp only [isPointed_append, isPointed_qualified, Bool.or_true, Bool.true_or]

theorem isPointed_index (s : Index) (method : IndexMethod) : isPointed (s.text method) = true := by
  delta Index.text
  simp only [isPointed_append, isPointed_qualified, Bool.or_true, Bool.true_or]

theorem isPointed_compression (s : Compression) : isPointed s.text = true := by
  delta Compression.text
  simp only [isPointed_append, isPointed_qualified, Bool.or_true, Bool.true_or]

theorem isPointed_hypertable (s : Hypertable) (interval : String) :
    isPointed (s.text interval) = true := by
  have hcast : isPointed
      "SELECT * FROM create_hypertable($1::regclass, $2::name, chunk_time_interval => " = true := by
    decide +kernel
  delta Hypertable.text
  simp only [isPointed_append, hcast, Bool.true_or]

theorem isPointed_policy (p : Policy) (interval : String) : isPointed (p.text interval) = true := by
  have hcast : isPointed "($1::regclass, " = true := by decide
  simp only [Policy.text, isPointed_append, hcast, Bool.or_true, Bool.true_or]

/-- **Built texts** have a dot or a colon. -/
theorem Built.isPointed {q : Statement} (h : q.Built) : isPointed q.sql = true := by
  cases h with
  | insert h =>
    obtain ⟨-, rfl⟩ := Insert.build_eq_ok_iff.mp h
    exact isPointed_insert _ _
  | insertBatch h =>
    obtain ⟨-, -, -, rfl⟩ := Insert.buildBatch_eq_ok_iff.mp h
    exact isPointed_insert _ _
  | select h =>
    obtain ⟨-, -, rfl⟩ := Select.of_build h
    exact isPointed_select _
  | index h =>
    obtain ⟨-, -, -, -, method, -, rfl⟩ := Index.of_build h
    exact isPointed_index _ method
  | hypertable h =>
    obtain ⟨-, interval, -, rfl⟩ := Hypertable.of_build h
    exact isPointed_hypertable _ interval
  | compression h =>
    obtain ⟨-, -, -, rfl⟩ := Compression.of_build h
    exact isPointed_compression _
  | policy h =>
    obtain ⟨-, interval, -, rfl⟩ := Policy.of_build h
    exact isPointed_policy _ interval

end Statement

/-! ## The texts of a tracking table -/

open Statement (isPointed)

/-- **The texts of a tracking table** have no dot and no colon. -/
theorem TrackingTable.isPointed_text (t : TrackingTable) (p : Purpose) :
    isPointed (t.text p) = false := by
  have hname := Statement.isPointed_of_isIdentifier t.isIdentifier
  cases p <;>
    · delta text createText selectText insertText deleteText
      simp only [Statement.isPointed_append, hname]
      decide +kernel

/-- **What is built is never taken for a statement of a tracking table.** -/
theorem TrackingOp.ofStatement_of_built (t : TrackingTable) {q : Statement} (h : q.Built) :
    ofStatement t q = .ok none := by
  rw [ofStatement_eq_none_iff]
  intro p htext
  have hpointed := h.isPointed
  rw [htext, t.isPointed_text] at hpointed
  cases hpointed

end SchemaKit
