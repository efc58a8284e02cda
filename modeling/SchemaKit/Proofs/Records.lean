import SchemaKit.Proofs.Acceptance
import SchemaKit.Proofs.Everyday
import SchemaKit.Proofs.Rows

/-!
# Records in rows

The columns of a derived record type are those of the fields that are not skipped, and its rows have
each of them once (`RecordType.columns_toRow`), with the value of the last field that goes into it
(`RecordType.get?_toRow_of_last`).  So a row tells all of a record exactly if no two fields go into
one column, and then inserting the record by its row or by the columns of its type is the same
(`insert_paths_agree_iff`).
-/

namespace SchemaKit

open Sql

/-! ## Fields -/

/-- Where a field goes, unless it is skipped or its attributes cannot be read. -/
def Field.binding? (f : Field) : Option Binding :=
  match f.binding with
  | .ok b => b
  | .error _ => none

/-- The column that a field goes into, unless it is skipped or its attributes cannot be read. -/
def Field.column? (f : Field) : Option String :=
  f.binding?.map Binding.column

def Declaration.fields (d : Declaration) : List Field :=
  match d.body with
  | .fields fields => fields
  | _ => []

/-- A field goes by its own name. -/
theorem Field.field_of_binding? {f : Field} {b : Binding} (h : f.binding? = some b) :
    b.field = f.name := by
  unfold Field.binding? at h
  cases hb : f.binding with
  | error e =>
    rw [hb] at h
    cases h
  | ok found =>
    rw [hb] at h
    obtain rfl : found = some b := h
    obtain ⟨items, -, hitems⟩ := exists_of_bind hb
    simp only [pure, Except.pure, Except.ok.injEq] at hitems
    split at hitems
    · cases hitems
    · rw [← Option.some.inj hitems]

theorem filterMap_binding? {fields : List Field} {found : List (Option Binding)}
    (h : fields.mapM Field.binding = .ok found) :
    found.filterMap id = fields.filterMap Field.binding? := by
  have hall := forall₂_of_mapM h
  clear h
  induction hall with
  | nil => rfl
  | @cons f b _ _ hf _ ih =>
    have hb : f.binding? = b := by
      unfold Field.binding?
      rw [hf]
    rw [List.filterMap_cons, List.filterMap_cons, ih, hb]
    rfl

/-- **Each field that is not skipped** has its place in a derived record type, in order. -/
theorem Declaration.bindings_of_derive {d : Declaration} {r : RecordType} (h : d.derive = .ok r) :
    r.bindings = d.fields.filterMap Field.binding? := by
  unfold derive at h
  unfold fields
  cases hbody : d.body with
  | fields fields =>
    rw [hbody] at h
    obtain ⟨found, hfound, h⟩ := exists_of_bind h
    simp only at h
    split at h
    · cases h
    · rw [← Except.ok.inj h]
      exact filterMap_binding? hfound
  | tuple | unit | enumeration | union =>
    rw [hbody] at h
    cases h

theorem Declaration.columns_of_derive {d : Declaration} {r : RecordType} (h : d.derive = .ok r) :
    r.columns = d.fields.filterMap Field.column? := by
  unfold RecordType.columns
  rw [bindings_of_derive h, List.map_filterMap]
  rfl

/-! ## The row of a record -/

namespace RecordType

variable {r : RecordType} {value : String → Value}

theorem columns_toRow (r : RecordType) (value : String → Value) :
    (r.toRow value).columns = r.columns.eraseDups := by
  unfold toRow columns
  rw [Row.columns_ofList, List.map_map]
  rfl

/-- A row has all columns of its type in order exactly if none comes twice. -/
theorem columns_toRow_eq_iff : (r.toRow value).columns = r.columns ↔ r.columns.Nodup := by
  constructor
  · intro h
    rw [← h]
    exact (r.toRow value).nodup
  · intro h
    rw [columns_toRow, eraseDups_eq_self_of_nodup h]

/-- **A column** holds the value of the last field that goes into it. -/
theorem get?_toRow_of_last {before after : List Binding} {b : Binding}
    (h : r.bindings = before ++ b :: after) (hlast : ∀ x ∈ after, x.column ≠ b.column) :
    (r.toRow value).get? b.column = some (value b.field) := by
  have hbehind : after.reverse.find? (fun x => x.column = b.column) = none := by
    rw [List.find?_eq_none]
    intro x hx
    rw [decide_eq_true_eq]
    exact hlast x (List.mem_reverse.mp hx)
  have hfound : r.bindings.reverse.find? (fun x => x.column = b.column) = some b := by
    rw [h, List.reverse_append, List.reverse_cons, List.append_assoc, List.find?_append, hbehind,
      Option.none_or, List.singleton_append, List.find?_cons_of_pos (by simp)]
  unfold toRow
  rw [Row.get?_ofList, ← List.map_reverse, List.find?_map]
  have hcomp : ((fun p : String × Value => decide (p.1 = b.column)) ∘
      fun x : Binding => (x.column, value x.field)) = fun x => decide (x.column = b.column) := rfl
  rw [hcomp, hfound]
  rfl

end RecordType

/-- The same for the fields of a declaration. -/
theorem Declaration.get?_toRow_of_last {d : Declaration} {r : RecordType} (h : d.derive = .ok r)
    {value : String → Value} {before after : List Field} {f : Field} {column : String}
    (hfields : d.fields = before ++ f :: after) (hf : f.column? = some column)
    (hlast : ∀ g ∈ after, g.column? ≠ some column) :
    (r.toRow value).get? column = some (value f.name) := by
  obtain ⟨b, hb, rfl⟩ := Option.map_eq_some_iff.mp hf
  have hbindings : r.bindings =
      before.filterMap Field.binding? ++ b :: after.filterMap Field.binding? := by
    rw [bindings_of_derive h, hfields, List.filterMap_append, List.filterMap_cons, hb]
  have hbehind : ∀ x ∈ after.filterMap Field.binding?, x.column ≠ b.column := by
    intro x hx hcolumn
    obtain ⟨g, hg, hgx⟩ := List.mem_filterMap.mp hx
    refine hlast g hg ?_
    unfold Field.column?
    rw [hgx, ← hcolumn]
    rfl
  rw [RecordType.get?_toRow_of_last hbindings hbehind, Field.field_of_binding? hb]

/-- Where no two fields go into one column, no value is lost. -/
theorem Declaration.get?_toRow_of_nodup {d : Declaration} {r : RecordType} (h : d.derive = .ok r)
    {value : String → Value} (hnodup : r.columns.Nodup) {f : Field} (hmem : f ∈ d.fields)
    {column : String} (hf : f.column? = some column) :
    (r.toRow value).get? column = some (value f.name) := by
  obtain ⟨before, after, hfields⟩ := List.append_of_mem hmem
  refine get?_toRow_of_last h hfields hf fun g hg hcolumn => ?_
  rw [columns_of_derive h, hfields, List.filterMap_append, List.filterMap_cons, hf] at hnodup
  have htail := (List.nodup_append.mp hnodup).2.1
  exact (List.nodup_cons.mp htail).1 (List.mem_filterMap.mpr ⟨g, hg, hcolumn⟩)

/-! ## Names that come twice -/

theorem Sql.Identifier.checkAll_append (a b : List String) :
    checkAll (a ++ b) = checkAll a >>= fun _ => checkAll b := by
  induction a with
  | nil => rfl
  | cons n ns ih =>
    rw [List.cons_append, checkAll, checkAll]
    cases check n with
    | error e => rfl
    | ok r => exact ih

/-- A name that has been checked need not be checked again. -/
theorem Sql.Identifier.checkAll_eraseDups (ns : List String) :
    checkAll ns.eraseDups = checkAll ns := by
  induction ns using List.reverseRecOn with
  | nil => rfl
  | append_singleton ns n ih =>
    by_cases hn : n ∈ ns
    · rw [eraseDups_concat_of_mem hn, ih, checkAll_append]
      cases hns : checkAll ns with
      | error e => rfl
      | ok u =>
        have hvalid := checkAll_eq_ok_iff.mp hns
        have hone : checkAll [n] = .ok () := checkAll_eq_ok_iff.mpr (by simpa using hvalid n hn)
        exact hone.symm
    · rw [eraseDups_concat_of_not_mem hn, checkAll_append, checkAll_append, ih]

theorem Insert.check_eraseDups (s : Insert) :
    { s with columns := s.columns.eraseDups }.check = s.check := by
  have hnames : Statement.names s.columns.eraseDups = Statement.names s.columns := by
    unfold Statement.names
    rw [Identifier.checkAll_eraseDups]
  have hempty : s.columns.eraseDups.isEmpty = s.columns.isEmpty := by
    cases s.columns with
    | nil => rfl
    | cons c rest =>
      rw [List.eraseDups_cons]
      rfl
  unfold check
  simp only
  rw [hnames, hempty]

/-! ## Two ways to insert a record -/

namespace Database

open Job (attempt)

variable {t : TrackingTable} {s : Store} {α : Type}

/-- Without failure markers a call is refused before it has begun, or all its statements are
logged. -/
theorem Ends.of_unmarked (hs : s.failures = []) {qs : List Statement} {a : α}
    {r : Except DatabaseError α × Store} (h : Ends s (.ok qs) a r) :
    r.1 = .ok a ∧ r.2.executed = s.executed ++ qs := by
  obtain ⟨journal, h⟩ := h
  have hnone : s.refusal? qs = none := by
    unfold Store.refusal?
    rw [List.findSome?_eq_none_iff]
    intro q _
    exact Store.failure?_eq_none hs q.sql
  rw [hnone] at h
  rw [h]
  exact ⟨rfl, rfl⟩

section Paths

variable {table : String} {row : Row} {r : RecordType} {db : Database}

/-- One row in chunks is one statement. -/
theorem buildChunks_singleton {insert : Insert} (hcheck : insert.check = .ok ()) {size : Nat}
    (hsize : 0 < size) (hlimit : insert.columns.length ≤ maxBindParams) :
    insert.buildChunks [row] size = .ok [⟨insert.text 1, insert.rowParams row⟩] := by
  have hwidth : insert.columns.length * min size [row].length ≤ maxBindParams := by
    rw [List.length_singleton, Nat.min_eq_right hsize, Nat.mul_one]
    exact hlimit
  have hchunks : Insert.chunks size [row] = [[row]] := by
    unfold Insert.chunks
    rw [List.take_nil, List.drop_nil]
    unfold Insert.chunks
    rfl
  rw [Insert.buildChunks_of_check hcheck hsize, if_neg (Nat.not_lt.mpr hwidth), hchunks,
    List.map_singleton, List.flatMap_singleton]
  rfl

/-- **A row inserted by its own columns.** -/
theorem insert_of_check (t : TrackingTable) (hs : s.failures = [])
    (hcheck : Insert.check { table, columns := row.columns } = .ok ()) :
    (attempt t s (Database.insert table row)).1 = .ok () ∧
      (attempt t s (Database.insert table row)).2.executed = s.executed ++
        [⟨Insert.text { table, columns := row.columns } 1, row.columns.map row.getD⟩] := by
  have hends : Ends s ((Insert.build { table, columns := row.columns } row).map fun q => [q]) ()
    (attempt t s (Database.insert table row)) := ends_perform fun q h => .insert h
  rw [Insert.build_of_check hcheck] at hends
  exact hends.of_unmarked hs

/-- **A record inserted by the columns of its type.** -/
theorem insertRecords_of_check (t : TrackingTable) (hs : s.failures = [])
    (value : String → Value) (hcheck : Insert.check { table, columns := r.columns } = .ok ())
    (hsize : 0 < db.batchSize) (hlimit : r.columns.length ≤ maxBindParams) :
    (attempt t s (db.insertRecords table r [value])).1 = .ok 1 ∧
      (attempt t s (db.insertRecords table r [value])).2.executed = s.executed ++
        [⟨Insert.text { table, columns := r.columns } 1,
          r.columns.map (r.toRow value).getD⟩] := by
  have hends := ends_insertBatch (t := t) (s := s) db { table, columns := r.columns }
    [r.toRow value]
  have hpieces : Request.pieces db { table, columns := r.columns } [r.toRow value] =
      Insert.buildChunks { table, columns := r.columns } [r.toRow value] db.batchSize := rfl
  rw [hpieces, buildChunks_singleton hcheck hsize hlimit] at hends
  exact hends.of_unmarked hs

/-- Both are refused for the names alone, and then for the same reason. -/
theorem insert_of_refused (t : TrackingTable) (s : Store) {e : BuildError}
    (hcheck : Insert.check { table, columns := row.columns } = .error e) :
    attempt t s (Database.insert table row) = (.error (.build e), s) := by
  unfold Database.insert perform
  rw [Insert.build_of_refused hcheck]
  rfl

theorem insertRecords_of_refused (t : TrackingTable) (s : Store) (value : String → Value)
    {e : BuildError} (hcheck : Insert.check { table, columns := r.columns } = .error e)
    (hsize : 0 < db.batchSize) :
    attempt t s (db.insertRecords table r [value]) = (.error (.build e), s) := by
  unfold insertRecords insertBatch
  rw [List.map_singleton, Insert.buildChunks_of_pos hsize, hcheck]
  rfl

end Paths

/-- **A record inserted by its row and by the columns of its type.**  The columns of the type are
those of the fields that are not skipped, in order.  The row has each of them once and in it the
value of the last field that goes there.  So it has the columns of the type, and in each the value
of its own field, exactly if no two fields go into one column.  On a store without failure markers
both ways are refused for the same reason if a name is; otherwise each logs one statement, and these
are the same exactly if no two fields go into one column. -/
theorem insert_paths_agree_iff {d : Declaration} {r : RecordType} (h : d.derive = .ok r)
    (value : String → Value) (t : TrackingTable) {s : Store} (hs : s.failures = [])
    (table : String) {db : Database} (hsize : 0 < db.batchSize)
    (hlimit : r.columns.length ≤ maxBindParams) :
    let row := r.toRow value
    let insert : Insert := { table, columns := r.columns }
    let single := attempt t s (Database.insert table row)
    let batch := attempt t s (db.insertRecords table r [value])
    (r.columns = d.fields.filterMap Field.column? ∧ row.columns = r.columns.eraseDups) ∧
    (∀ before f after column, d.fields = before ++ f :: after → f.column? = some column →
      (∀ g ∈ after, g.column? ≠ some column) → row.get? column = some (value f.name)) ∧
    (row.columns = r.columns ↔ r.columns.Nodup) ∧
    (r.columns.Nodup → ∀ f ∈ d.fields, ∀ column, f.column? = some column →
      row.get? column = some (value f.name)) ∧
    (∀ e, insert.check = .error e →
      single = (.error (.build e), s) ∧ batch = (.error (.build e), s)) ∧
    (insert.check = .ok () → ∃ q q', single.1 = .ok () ∧ batch.1 = .ok 1 ∧
      single.2.executed = s.executed ++ [q] ∧ batch.2.executed = s.executed ++ [q'] ∧
      (q = q' ↔ r.columns.Nodup)) := by
  intro row insert single batch
  have hcolumns : row.columns = r.columns.eraseDups := r.columns_toRow value
  have hcheck : Insert.check { table, columns := row.columns } = insert.check := by
    rw [hcolumns]
    exact Insert.check_eraseDups insert
  refine ⟨⟨Declaration.columns_of_derive h, hcolumns⟩,
    fun before f after column => Declaration.get?_toRow_of_last h,
    RecordType.columns_toRow_eq_iff,
    fun hnodup f hf column => Declaration.get?_toRow_of_nodup h hnodup hf,
    fun e hrefused => ⟨insert_of_refused t s (hcheck.trans hrefused),
      insertRecords_of_refused t s value hrefused hsize⟩, fun hvalid => ?_⟩
  obtain ⟨hdone, hlogged⟩ := insert_of_check t hs (hcheck.trans hvalid)
  obtain ⟨hcount, hlogged'⟩ := insertRecords_of_check t hs value hvalid hsize hlimit
  refine ⟨_, _, hdone, hcount, hlogged, hlogged', fun hq => ?_, fun hnodup => ?_⟩
  · -- as many values are bound as there are columns
    have hlength : row.columns.length = r.columns.length := by
      have hparams := congrArg (fun q => q.params.length) hq
      simpa only [List.length_map] using hparams
    rw [hcolumns] at hlength
    have hall : r.columns.eraseDups = r.columns :=
      (eraseDups_sublist r.columns).eq_of_length hlength
    exact RecordType.columns_toRow_eq_iff.mp (hcolumns.trans hall)
  · have hsame : row.columns = r.columns := RecordType.columns_toRow_eq_iff.mpr hnodup
    rw [hsame]

/-- A renamed field, a skipped one, and a raw word for a name. -/
theorem insert_paths_agree_iff_of_event :
    let rename : Source.Attribute := ⟨false, ["row"],
      .list [.word "rename", .mark '=' false, .literal (.text "type")]⟩
    let skip : Source.Attribute := ⟨false, ["row"], .list [.word "skip"]⟩
    let d : Declaration :=
      ⟨"Event", .fields [⟨"kind", [rename]⟩, ⟨"cache", [skip]⟩, ⟨"r#match", []⟩]⟩
    let r : RecordType := ⟨[⟨"type", "kind"⟩, ⟨"match", "r#match"⟩]⟩
    let s : Store := { clock := ⟨⟨2024, 1, 1⟩, 0, 0, 0, 0⟩ }
    let db : Database := {}
    d.derive = .ok r ∧ s.failures = [] ∧ 0 < db.batchSize ∧ r.columns.length ≤ maxBindParams ∧
      (r.toRow .text).columns = r.columns ∧ (r.toRow .text).get? "type" = some (.text "kind") ∧
      (attempt .standard s (Database.insert "events" (r.toRow .text))).2.executed =
        (attempt .standard s (db.insertRecords "events" r [.text])).2.executed := by
  intro rename skip d r s db
  have hderive : d.derive = .ok r := by decide +kernel
  have hsize : 0 < db.batchSize := by decide
  have hlimit : r.columns.length ≤ maxBindParams := by decide
  have hnodup : r.columns.Nodup := by decide
  have hvalid : Insert.check { table := "events", columns := r.columns } = .ok () := by
    decide +kernel
  obtain ⟨-, -, hcolumns, hvalues, -, hlogged⟩ :=
    insert_paths_agree_iff hderive .text .standard (s := s) rfl "events" hsize hlimit
  obtain ⟨q, q', -, -, hsingle, hbatch, hsame⟩ := hlogged hvalid
  refine ⟨hderive, rfl, hsize, hlimit, hcolumns.mpr hnodup, ?_, ?_⟩
  · exact hvalues hnodup ⟨"kind", [rename]⟩ (List.mem_cons_self ..) "type" (by decide +kernel)
  · rw [hsingle, hbatch, hsame.mpr hnodup]

/-- Two fields are renamed to one column: the first of them is lost, and its column is inserted once
or twice. -/
theorem shared_column_loses_field :
    let rename : Source.Attribute := ⟨false, ["row"],
      .list [.word "rename", .mark '=' false, .literal (.text "same")]⟩
    let d : Declaration :=
      ⟨"Clash", .fields [⟨"first", [rename]⟩, ⟨"middle", []⟩, ⟨"last", [rename]⟩]⟩
    let r : RecordType := ⟨[⟨"same", "first"⟩, ⟨"middle", "middle"⟩, ⟨"same", "last"⟩]⟩
    let row := r.toRow .text
    let s : Store := { clock := ⟨⟨2024, 1, 1⟩, 0, 0, 0, 0⟩ }
    let db : Database := {}
    d.derive = .ok r ∧ r.columns = ["same", "middle", "same"] ∧ row.columns = ["same", "middle"] ∧
      row.get? "same" = some (.text "last") ∧
      (attempt .standard s (Database.insert "t" row)).2.executed =
        [⟨"INSERT INTO public.t (same, middle) VALUES ($1, $2)",
          [.text "last", .text "middle"]⟩] ∧
      (attempt .standard s (db.insertRecords "t" r [.text])).2.executed =
        [⟨"INSERT INTO public.t (same, middle, same) VALUES ($1, $2, $3)",
          [.text "last", .text "middle", .text "last"]⟩] := by
  intro rename d r row s db
  have hderive : d.derive = .ok r := by decide +kernel
  have hcolumns : row.columns = ["same", "middle"] := by decide
  have hshort : Insert.check { table := "t", columns := row.columns } = .ok () := by
    decide +kernel
  have hlong : Insert.check { table := "t", columns := r.columns } = .ok () := by decide +kernel
  have hshortText : Insert.text { table := "t", columns := row.columns } 1 =
      "INSERT INTO public.t (same, middle) VALUES ($1, $2)" := by decide +kernel
  have hlongText : Insert.text { table := "t", columns := r.columns } 1 =
      "INSERT INTO public.t (same, middle, same) VALUES ($1, $2, $3)" := by decide +kernel
  have hsingle := (insert_of_check .standard (s := s) rfl hshort).2
  have hsize : 0 < db.batchSize := by decide
  have hlimit : r.columns.length ≤ maxBindParams := by decide
  have hbatch := (insertRecords_of_check .standard (s := s) rfl .text hlong hsize hlimit).2
  rw [hshortText] at hsingle
  rw [hlongText] at hbatch
  exact ⟨hderive, rfl, hcolumns, rfl, hsingle, hbatch⟩

end Database

end SchemaKit
