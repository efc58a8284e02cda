import Mathlib.Data.Finset.Card
import Mathlib.Data.String.Basic
import SchemaKit.Proofs.Placeholders
import SchemaKit.Proofs.Records

/-!
# Rows that are inserted

However its columns have been set, a row is a map from column names to the values that they were set to
last, in the order in which the names came first (`Row.isMapOf_ofList`).  An INSERT of a row by its own
columns looks every value up by its name again, and since no name comes twice it finds the value of
the same entry: it names the columns and binds the values of the row in order
(`Row.build_own_columns`).  So nothing depends on the order in which a map hands out its entries but
the order of the columns (`row_is_ordered_map`).
-/

namespace SchemaKit

open Statement Sql Identifier

/-! ## Places of first occurrences -/

theorem pairwise_idxOf_eraseDups {α : Type} [BEq α] [LawfulBEq α] (l : List α) :
    l.eraseDups.Pairwise fun a b => l.idxOf a < l.idxOf b := by
  induction l using List.reverseRecOn with
  | nil => exact List.Pairwise.nil
  | append_singleton l a ih =>
    -- what is in front keeps its place
    have hfront : l.eraseDups.Pairwise fun x y => (l ++ [a]).idxOf x < (l ++ [a]).idxOf y := by
      refine List.Pairwise.imp_of_mem (fun hx hy hxy => ?_) ih
      rw [List.idxOf_append_of_mem (List.mem_eraseDups.mp hx),
        List.idxOf_append_of_mem (List.mem_eraseDups.mp hy)]
      exact hxy
    by_cases ha : a ∈ l
    · rw [eraseDups_concat_of_mem ha]
      exact hfront
    · rw [eraseDups_concat_of_not_mem ha]
      refine List.pairwise_append.mpr ⟨hfront, List.pairwise_singleton _ _, fun x hx y hy => ?_⟩
      rw [List.mem_singleton.mp hy, List.idxOf_append_of_mem (List.mem_eraseDups.mp hx),
        List.idxOf_append_of_notMem ha]
      exact Nat.lt_of_lt_of_le (List.idxOf_lt_length_of_mem (List.mem_eraseDups.mp hx))
        (Nat.le_add_right _ _)

/-! ## Rows as maps -/

namespace Row

variable {row : Row} {column : String} {value : Value} {es es' pairs : List (String × Value)}

theorem fst_exchangeEntry (column : String) (value : Value) (es : List (String × Value)) :
    (exchangeEntry column value es).1 = (es.find? fun e => e.1 = column).map Prod.snd := by
  induction es with
  | nil => rfl
  | cons e rest ih =>
    by_cases h : e.1 = column
    · rw [exchangeEntry, if_pos h, List.find?_cons_of_pos (by simpa using h)]
      rfl
    · rw [exchangeEntry, if_neg h, List.find?_cons_of_neg (by simpa using h), ← ih]

/-- **Setting a column** gives the value that it had. -/
theorem getThenInsert?_eq (row : Row) (column : String) (value : Value) :
    row.getThenInsert? column value = (row.get? column, row.insert column value) :=
  Prod.ext (fst_exchangeEntry column value row.entries)
    (Row.ext (snd_exchangeEntry column value row.entries))

/-- What a row has to be if the given columns have been set one after the other: each of their names
is a column, once, in the order in which they came first, with the value that came last. -/
structure IsMapOf (row : Row) (pairs : List (String × Value)) : Prop where
  nodup : row.columns.Nodup
  mem_columns_iff : ∀ c, c ∈ row.columns ↔ c ∈ pairs.map Prod.fst
  ordered : row.columns.Pairwise fun c d =>
    (pairs.map Prod.fst).idxOf c < (pairs.map Prod.fst).idxOf d
  get?_eq : ∀ c, row.get? c = (pairs.reverse.find? fun p => p.1 = c).map Prod.snd
  size_eq : row.size = (pairs.map Prod.fst).toFinset.card

/-- **A row is a map** of the columns that have been set. -/
theorem isMapOf_ofList (pairs : List (String × Value)) : (ofList pairs).IsMapOf pairs := by
  have hmem : ∀ c, c ∈ (ofList pairs).columns ↔ c ∈ pairs.map Prod.fst := by
    intro c
    rw [columns_ofList, List.mem_eraseDups]
  refine ⟨(ofList pairs).nodup, hmem, ?_, get?_ofList pairs, ?_⟩
  · rw [columns_ofList]
    exact pairwise_idxOf_eraseDups _
  · have hsame : (ofList pairs).columns.toFinset = (pairs.map Prod.fst).toFinset := by
      ext c
      rw [List.mem_toFinset, List.mem_toFinset, hmem]
    have hnodup : (ofList pairs).columns.Nodup := (ofList pairs).nodup
    rw [← hsame, List.toFinset_card_of_nodup hnodup]
    exact (List.length_map Prod.fst).symm

/-! ## Entries of distinct names -/

theorem setEntry_of_not_mem (h : column ∉ es.map Prod.fst) :
    setEntry column value es = es ++ [(column, value)] := by
  induction es with
  | nil => rfl
  | cons e rest ih =>
    rw [List.map_cons, List.mem_cons, not_or] at h
    rw [setEntry, if_neg (Ne.symm h.1), ih h.2, List.cons_append]

/-- Entries of distinct names are the row that they make. -/
theorem entries_ofList (h : (es.map Prod.fst).Nodup) : (ofList es).entries = es := by
  induction es using List.reverseRecOn with
  | nil => rfl
  | append_singleton es p ih =>
    rw [List.map_append, List.map_singleton] at h
    obtain ⟨hes, -, hdisjoint⟩ := List.nodup_append.mp h
    have hp : p.1 ∉ es.map Prod.fst := fun hp => hdisjoint _ hp _ (List.mem_singleton_self _) rfl
    rw [ofList_concat, entries_insert, ih hes, setEntry_of_not_mem hp]

theorem name_trans (a b c : String × Value) (hab : decide (a.1 ≤ b.1) = true)
    (hbc : decide (b.1 ≤ c.1) = true) : decide (a.1 ≤ c.1) = true :=
  decide_eq_true (le_trans (of_decide_eq_true hab) (of_decide_eq_true hbc))

theorem name_total (a b : String × Value) :
    (decide (a.1 ≤ b.1) || decide (b.1 ≤ a.1)) = true := by
  rw [Bool.or_eq_true, decide_eq_true_eq, decide_eq_true_eq]
  exact le_total a.1 b.1

/-- The row of a map has the entries of the map in ascending order of their names. -/
theorem entries_ofMap (pairs : List (String × Value)) :
    (ofMap pairs).entries.Perm (ofList pairs).entries ∧
      (ofMap pairs).entries.Pairwise fun a b => a.1 < b.1 := by
  have hperm := List.mergeSort_perm (ofList pairs).entries fun a b => decide (a.1 ≤ b.1)
  have hnodup := (hperm.map Prod.fst).nodup_iff.mpr (ofList pairs).nodup
  have hsorted := List.pairwise_mergeSort name_trans name_total (ofList pairs).entries
  rw [ofMap, entries_ofList hnodup]
  refine ⟨hperm, ?_⟩
  refine List.Pairwise.imp ?_ (hsorted.and (List.pairwise_map.mp hnodup))
  rintro a b ⟨hle, hne⟩
  exact lt_of_le_of_ne (of_decide_eq_true hle) hne

/-- Each value is found by its name. -/
theorem map_getD_columns (row : Row) : row.columns.map row.getD = row.entries.map Prod.snd := by
  rw [columns, List.map_map]
  exact List.map_congr_left fun e he => getD_of_mem he

/-! ## Inserting a row -/

/-- The INSERT that names the columns of a row in order and binds its values in the same order. -/
def insertion (row : Row) (table : String) : Statement :=
  ⟨"INSERT INTO public." ++ table ++ " (" ++ commaList (row.entries.map Prod.fst) ++
      ") VALUES (" ++ commaList ((List.range' 1 row.size).map placeholder) ++ ")",
    row.entries.map Prod.snd⟩

/-- The pairs of column and value that this INSERT binds. -/
def boundPairs (row : Row) (table : String) : List (String × Value) :=
  row.columns.zip (row.insertion table).params

/-- Whether a row can be inserted into a table by its own columns. -/
def Insertable (row : Row) (table : String) : Prop :=
  isIdentifier table = true ∧ row.columns ≠ [] ∧ ∀ c ∈ row.columns, isIdentifier c = true

theorem boundPairs_eq (row : Row) (table : String) : row.boundPairs table = row.entries :=
  (List.zip_of_prod rfl rfl).symm

theorem check_own_columns {table : String} :
    Insert.check { table, columns := row.columns } = .ok () ↔ row.Insertable table := by
  have hschema : isIdentifier defaultSchema = true := by decide
  have htable : (∀ n ∈ [table, defaultSchema], isIdentifier n = true) ↔
      isIdentifier table = true := by
    simp [hschema]
  exact Insert.check_eq_ok_iff.trans (and_congr_left' htable)

theorem text_own_columns (row : Row) (table : String) :
    Insert.text { table, columns := row.columns } 1 = (row.insertion table).sql := by
  have hgroups : Insert.groups row.columns.length 1 = [Insert.group 1 row.size] := by
    rw [columns, List.length_map]
    simp [Insert.groups, size]
  have hone : commaList [Insert.group 1 row.size] = Insert.group 1 row.size := by
    simp [commaList]
  have hpublic : "INSERT INTO public." = "INSERT INTO " ++ "public" ++ "." := by decide +kernel
  have hopen : ") VALUES (" = ") VALUES " ++ "(" := by decide +kernel
  delta Insert.text insertion
  simp only [hgroups, hone]
  delta Insert.group Statement.qualified defaultSchema columns
  rw [hpublic, hopen]
  simp only [String.append_assoc, String.append_empty]

/-- **An INSERT of a row by its own columns.** -/
theorem build_own_columns {table : String} (h : row.Insertable table) :
    Insert.build { table, columns := row.columns } row = .ok (row.insertion table) := by
  have hparams : Insert.rowParams { table, columns := row.columns } row =
      (row.insertion table).params := row.map_getD_columns
  rw [Insert.build_of_check (check_own_columns.mpr h), text_own_columns, hparams]

/-- Two orders of the same entries make rows that can be inserted alike. -/
theorem insertable_iff_of_perm {a b : Row} (h : a.entries.Perm b.entries) (table : String) :
    a.Insertable table ↔ b.Insertable table := by
  have hcolumns : a.columns.Perm b.columns := h.map Prod.fst
  have hempty : a.columns ≠ [] ↔ b.columns ≠ [] := by
    rw [ne_eq, ne_eq, ← List.length_eq_zero_iff, ← List.length_eq_zero_iff, hcolumns.length_eq]
  have hnames : (∀ c ∈ a.columns, isIdentifier c = true) ↔
      ∀ c ∈ b.columns, isIdentifier c = true :=
    forall_congr' fun c => imp_congr_left hcolumns.mem_iff
  exact and_congr_right' (and_congr hempty hnames)

end Row

/-! ## The call -/

namespace Database

open Job (attempt)

variable {table : String} {row : Row}

theorem ends_insert (t : TrackingTable) (s : Store) (h : row.Insertable table) :
    Ends s (.ok [row.insertion table]) () (attempt t s (Database.insert table row)) := by
  have hends : Ends s ((Insert.build { table, columns := row.columns } row).map fun q => [q]) ()
    (attempt t s (Database.insert table row)) := ends_perform fun q hq => .insert hq
  rw [Row.build_own_columns h] at hends
  exact hends

/-- What a failure marker refuses is not logged. -/
theorem insert_of_marked (t : TrackingTable) {s : Store} {marker : String}
    (h : row.Insertable table) (hmarker : s.failure? (row.insertion table).sql = some marker) :
    (attempt t s (Database.insert table row)).1 = .error (.execute (.injected marker)) ∧
      (attempt t s (Database.insert table row)).2.executed = s.executed := by
  obtain ⟨journal, hends⟩ := ends_insert t s h
  rw [Store.refusal?, List.findSome?_cons, hmarker] at hends
  rw [hends]
  exact ⟨rfl, rfl⟩

/-- Otherwise **the row is inserted** with its columns and values in order. -/
theorem insert_of_unmarked (t : TrackingTable) {s : Store} (h : row.Insertable table)
    (hnone : s.failure? (row.insertion table).sql = none) :
    (attempt t s (Database.insert table row)).1 = .ok () ∧
      (attempt t s (Database.insert table row)).2.executed =
        s.executed ++ [row.insertion table] := by
  obtain ⟨journal, hends⟩ := ends_insert t s h
  rw [Store.refusal?, List.findSome?_cons, hnone] at hends
  rw [hends]
  exact ⟨rfl, rfl⟩

/-- What cannot be inserted is refused before the store is asked. -/
theorem exists_insert_refused (t : TrackingTable) (s : Store) (h : ¬row.Insertable table) :
    ∃ why, attempt t s (Database.insert table row) = (.error (.build why), s) := by
  cases hcheck : Insert.check { table, columns := row.columns } with
  | ok u => exact absurd (Row.check_own_columns.mp hcheck) h
  | error why => exact ⟨why, insert_of_refused t s hcheck⟩

end Database

/-! ## Ordered maps -/

/-- **A row is an ordered map, and inserting it binds its entries.**  However columns have been set
one after the other, the row has each of their names once, in the order in which they came first,
with the value that came last, and setting one more gives the value that the row had for it.  Every
row is made so, a row of a map by the entries of the map in ascending order of their names.  A row
of one or more columns that are all identifiers is inserted by the statement that names its columns
and binds its values in order, unless a failure marker stands in the statement; any other row is
refused without asking the store, and a row without columns for this reason.  Two orders of the same
entries make rows of which both or none can be inserted, and they bind the same pairs. -/
theorem row_is_ordered_map :
    (∀ pairs, (Row.ofList pairs).IsMapOf pairs) ∧
    (∀ pairs column value, (Row.ofList pairs).getThenInsert? column value =
      ((Row.ofList pairs).get? column, Row.ofList (pairs ++ [(column, value)]))) ∧
    (∀ row, Row.ofList row.entries = row) ∧
    (∀ pairs, (Row.ofMap pairs).entries.Perm (Row.ofList pairs).entries ∧
      (Row.ofMap pairs).entries.Pairwise fun a b => a.1 < b.1) ∧
    (∀ (t : TrackingTable) (s : Store) (table : String) (row : Row),
      let call := Job.attempt t s (Database.insert table row)
      let q := row.insertion table
      (row.Insertable table → row.boundPairs table = row.entries ∧
        (s.failure? q.sql = none → call.1 = .ok () ∧ call.2.executed = s.executed ++ [q]) ∧
        ∀ marker, s.failure? q.sql = some marker →
          call.1 = .error (.execute (.injected marker)) ∧ call.2.executed = s.executed) ∧
      (¬row.Insertable table → ∃ why, call = (.error (.build why), s)) ∧
      (isIdentifier table = true → row.columns = [] → call = (.error (.build .noColumns), s))) ∧
    ∀ (es es' : List (String × Value)) (table : String), es.Perm es' → (es.map Prod.fst).Nodup →
      ((Row.ofList es).Insertable table ↔ (Row.ofList es').Insertable table) ∧
      ((Row.ofList es).boundPairs table).Perm ((Row.ofList es').boundPairs table) := by
  refine ⟨Row.isMapOf_ofList, fun pairs column value => ?_,
    fun row => Row.ext (Row.entries_ofList row.nodup), Row.entries_ofMap,
    fun t s table row => ⟨fun h => ⟨row.boundPairs_eq table, Database.insert_of_unmarked t h,
      fun marker => Database.insert_of_marked t h⟩, Database.exists_insert_refused t s,
      fun htable hcolumns => ?_⟩,
    fun es es' table hperm hnodup => ?_⟩
  · rw [Row.getThenInsert?_eq, Row.ofList_concat]
  · refine Database.insert_of_refused t s ?_
    have hnames : names [table, defaultSchema] = .ok () := by
      have hschema : isIdentifier defaultSchema = true := by decide
      rw [names_eq_ok_iff]
      simp [htable, hschema]
    unfold Insert.check
    rw [hcolumns, hnames]
    rfl
  · have hsame : (Row.ofList es).entries.Perm (Row.ofList es').entries := by
      rw [Row.entries_ofList hnodup,
        Row.entries_ofList ((hperm.map Prod.fst).nodup_iff.mp hnodup)]
      exact hperm
    refine ⟨Row.insertable_iff_of_perm hsame table, ?_⟩
    rw [Row.boundPairs_eq, Row.boundPairs_eq]
    exact hsame

/-- A column set twice, and the same entries of a map in two orders. -/
theorem row_is_ordered_map_of_repeated_column :
    let pairs := [("id", Value.int 1), ("name", .text "a"), ("id", .int 2)]
    let row := Row.ofList pairs
    let s : Store := { clock := ⟨⟨2024, 1, 1⟩, 0, 0, 0, 0⟩ }
    let call := Job.attempt .standard s (Database.insert "users" row)
    row.columns = ["id", "name"] ∧ row.get? "id" = some (.int 2) ∧
      row.getThenInsert? "name" .null =
        (some (.text "a"), Row.ofList (pairs ++ [("name", .null)])) ∧
      call.1 = .ok () ∧ call.2.executed =
        [⟨"INSERT INTO public.users (id, name) VALUES ($1, $2)", [.int 2, .text "a"]⟩] ∧
      ((Row.ofList [("name", .text "a"), ("id", .int 2)]).boundPairs "users").Perm
        (row.boundPairs "users") := by
  intro pairs row s call
  obtain ⟨hmap, hset, -, -, hinsert, horders⟩ := row_is_ordered_map
  have hinsertable : row.Insertable "users" := ⟨by decide, by decide, by decide⟩
  have hnone : s.failure? (row.insertion "users").sql = none := rfl
  obtain ⟨-, hdone, -⟩ := (hinsert .standard s "users" row).1 hinsertable
  have hsql : (row.insertion "users").sql =
      "INSERT INTO public.users (id, name) VALUES ($1, $2)" := by
    decide +kernel
  have hq : row.insertion "users" =
      ⟨"INSERT INTO public.users (id, name) VALUES ($1, $2)", [.int 2, .text "a"]⟩ := by
    rw [← hsql]
    rfl
  obtain ⟨hok, hlogged⟩ := hdone hnone
  rw [hq] at hlogged
  refine ⟨by decide, ?_, ?_, hok, hlogged, ?_⟩
  · exact (hmap pairs).get?_eq "id"
  · exact hset pairs "name" .null
  · exact (horders row.entries.reverse row.entries "users" (List.reverse_perm _) (by decide)).2

end SchemaKit
