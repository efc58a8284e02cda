import Mathlib.Data.List.Nodup
import SchemaKit.Proofs.Building
import SchemaKit.Proofs.Marks

/-!
# Placeholders of inserts

The placeholders of an INSERT are numbered through from `$1`, row after row, in groups of one for
each column (`marks_text`), and its values stand row after row as well
(`getElem?_flatMap_uniform`).  So each placeholder takes the value of its own row and column,
whatever the order of the columns in the row.
-/

namespace SchemaKit

/-! ## Equal parts in a row -/

/-- What stands in a list of parts of one length. -/
theorem getElem?_flatMap_uniform {α β : Type} {f : α → List β} {w : Nat}
    (hf : ∀ x, (f x).length = w) {i j : Nat} (hj : j < w) (xs : List α) :
    (xs.flatMap f)[i * w + j]? = xs[i]?.bind fun x => (f x)[j]? := by
  induction xs generalizing i with
  | nil => simp
  | cons x xs ih =>
    rw [List.flatMap_cons]
    cases i with
    | zero =>
      rw [Nat.zero_mul, Nat.zero_add, List.getElem?_append_left (by rw [hf]; exact hj)]
      rfl
    | succ i =>
      have hsplit : (i + 1) * w + j = (f x).length + (i * w + j) := by
        rw [hf, Nat.succ_mul]
        omega
      rw [hsplit, List.getElem?_append_right (Nat.le_add_right _ _), Nat.add_sub_cancel_left, ih]
      rfl

/-- Groups of consecutive numbers, each of which goes on where the last one ends. -/
theorem flatMap_range' (w n : Nat) :
    (List.range n).flatMap (fun i => List.range' (i * w + 1) w) = List.range' 1 (n * w) := by
  induction n with
  | zero => simp
  | succ n ih =>
    rw [List.range_succ, List.flatMap_append, ih, List.flatMap_singleton, Nat.succ_mul,
      Nat.add_comm (n * w) 1, List.range'_append_1]

/-! ## Values by name -/

namespace Row

variable {row : Row} {column : String}

/-- Where in the row a column stands does not matter to its value. -/
theorem getD_of_mem {value : Value} (h : (column, value) ∈ row.entries) :
    row.getD column = value := by
  have hfound : (row.entries.find? fun e => e.1 = column).isSome = true :=
    List.find?_isSome.mpr ⟨_, h, by simp⟩
  obtain ⟨e, he⟩ := Option.isSome_iff_exists.mp hfound
  have hname : e.1 = column := by simpa using List.find?_some he
  have hentry : e = (column, value) :=
    List.inj_on_of_nodup_map row.nodup (List.mem_of_find?_eq_some he) h hname
  rw [getD, get?, he, hentry]
  rfl

theorem getD_of_not_mem (h : column ∉ row.columns) : row.getD column = .null := by
  have hnone : row.entries.find? (fun e => e.1 = column) = none := by
    rw [List.find?_eq_none]
    intro e he hname
    exact h (List.mem_map.mpr ⟨e, he, by simpa using hname⟩)
  rw [getD, get?, hnone]
  rfl

end Row

/-! ## Text and values -/

/-- The value that a placeholder stands for. -/
def Statement.value? (q : Statement) : Nat → Option Value
  | 0 => none
  | k + 1 => q.params[k]?

/-- Groups of `w` placeholders in parentheses, numbered through, with commas between them. -/
def Sql.Mark.numbered (w n : Nat) : List Sql.Mark :=
  [comma].intercalate ((List.range n).map fun i =>
    parens ((List.range' (i * w + 1) w).map fun k => [placeholder k]))

namespace Insert

open Statement Sql Mark

variable {s : Insert} {rows : List Row} {q : Statement}

/-- A statement that is built for rows, for all of them at once or for one by itself. -/
def Yields (s : Insert) (rows : List Row) (q : Statement) : Prop :=
  s.buildBatch rows = .ok q ∨ ∃ row, rows = [row] ∧ s.build row = .ok q

theorem Yields.eq (h : s.Yields rows q) :
    s.check = .ok () ∧ q = ⟨s.text rows.length, rows.flatMap s.rowParams⟩ := by
  rcases h with h | ⟨row, rfl, h⟩
  · obtain ⟨hcheck, -, -, hq⟩ := buildBatch_eq_ok_iff.mp h
    exact ⟨hcheck, hq⟩
  · obtain ⟨hcheck, hq⟩ := build_eq_ok_iff.mp h
    refine ⟨hcheck, hq.trans ?_⟩
    rw [List.flatMap_singleton, List.length_singleton]

theorem marks_group (first width : Nat) :
    marks (group first width) = parens ((List.range' first width).map fun k => [placeholder k]) := by
  rw [group, marks_parens, List.map_map]
  exact congrArg parens (List.map_congr_left fun k _ => marks_placeholder k)

/-- Before the placeholders there are only the names of the columns in parentheses. -/
theorem marks_text (hcheck : s.check = .ok ()) (hplain : s.onConflict = none) (n : Nat) :
    marks (s.text n) =
      parens (s.columns.map fun _ => []) ++ numbered s.columns.length n := by
  obtain ⟨hnames, -, hcolumns⟩ := check_eq_ok_iff.mp hcheck
  -- the names at the beginning have no marks, so the first are the parentheses of the columns
  have htext : s.text n = ("INSERT INTO " ++ s.schema ++ "." ++ s.table ++ " ") ++
      (("(" ++ commaList s.columns ++ ")") ++
        (" VALUES " ++ commaList (groups s.columns.length n))) := by
    apply String.toList_injective
    delta text
    simp [qualified, hplain]
  have hlead : isPlainText ("INSERT INTO " ++ s.schema ++ "." ++ s.table ++ " ") = true := by
    have hschema := isPlainText_of_isIdentifier (hnames s.schema (by simp))
    have htable := isPlainText_of_isIdentifier (hnames s.table (by simp))
    simp only [isPlainText_append, hschema, htable]
    decide
  have hnone : s.columns.map marks = s.columns.map fun _ => [] :=
    List.map_congr_left fun column hcolumn =>
      marks_of_isPlainText (isPlainText_of_isIdentifier (hcolumns column hcolumn))
  have hgroups : (groups s.columns.length n).map marks = (List.range n).map fun i =>
      parens ((List.range' (i * s.columns.length + 1) s.columns.length).map fun k =>
        [placeholder k]) := by
    rw [groups, List.map_map]
    exact List.map_congr_left fun i _ => marks_group _ _
  rw [htext, marks_plain_append hlead, marks_append (by simp), marks_parens, hnone,
    marks_plain_append (by decide), marks_commaList, hgroups, numbered]

/-- The numbers of the groups run on. -/
theorem filterMap_number?_numbered (w n : Nat) :
    (numbered w n).filterMap number? = List.range' 1 (n * w) := by
  have hgroup : ∀ ks : List Nat,
      (parens (ks.map fun k => [placeholder k])).filterMap number? = ks := fun ks => by
    rw [filterMap_number?_parens, List.flatMap_map]
    exact List.flatMap_singleton' ks
  rw [numbered, filterMap_number?_intercalate, List.flatMap_map]
  simp only [hgroup]
  exact flatMap_range' w n

/-- What a clause for conflicts adds to the text. -/
def conflictText (s : Insert) : String :=
  match s.onConflict with
  | some clause => " ON CONFLICT " ++ clause
  | none => ""

theorem head?_conflictText (s : Insert) : ∀ c ∈ s.conflictText.toList.head?, c = ' ' := by
  unfold conflictText
  cases s.onConflict with
  | none => simp
  | some clause =>
    rw [String.toList_append]
    exact fun c hc => (Option.some.inj hc).symm

/-- The names of the columns have no numbers. -/
theorem filterMap_number?_names (s : Insert) :
    (parens (s.columns.map fun _ => [])).filterMap number? = [] := by
  simp [filterMap_number?_parens]

/-- Trusted text comes behind the numbers of all bound values. -/
theorem numbers_isPrefix (hcheck : s.check = .ok ()) (n : Nat) :
    List.range' 1 (n * s.columns.length) <+: (marks (s.text n)).filterMap number? := by
  -- what a clause says is not read: the numbers all stand in front of it
  let plain : Insert := { s with onConflict := none }
  have htext : s.text n = plain.text n ++ s.conflictText := by
    delta text
    rw [String.append_empty]
    rfl
  have hhead : ∀ c ∈ s.conflictText.toList.head?, c.isDigit = false := by
    intro c hc
    rw [s.head?_conflictText c hc]
    rfl
  rw [htext, marks_append hhead, marks_text (s := plain) hcheck rfl, List.filterMap_append,
    List.filterMap_append, filterMap_number?_names, List.nil_append, filterMap_number?_numbered]
  exact List.prefix_append _ _

/-- **Each placeholder of an INSERT takes the value of its own row and column.**  For `n` rows and
`w` columns the placeholders of the text are `$1` to `$(n * w)` in order, in `n` groups of `w` in
parentheses, behind the names of the columns.  As many values are bound, and the placeholder in place
`j` of group `i` takes what row `i` has for column `j`, or null if it has none.  What the rows hold
has no part in the text. -/
theorem placeholders_take_own_values (hplain : s.onConflict = none) (h : s.Yields rows q) :
    let w := s.columns.length
    let n := rows.length
    marks q.sql = parens (s.columns.map fun _ => []) ++ numbered w n ∧
    (marks q.sql).filterMap number? = List.range' 1 (n * w) ∧
    q.params.length = n * w ∧
    (∀ (i j : Nat) (row : Row) (column : String), rows[i]? = some row → s.columns[j]? = some column →
      ∃ k, (List.range' (i * w + 1) w)[j]? = some k ∧
        (∀ value, (column, value) ∈ row.entries → q.value? k = some value) ∧
        (column ∉ row.columns → q.value? k = some .null)) ∧
    ∀ (rows' : List Row) (q' : Statement),
      rows'.length = n → s.Yields rows' q' → q'.sql = q.sql := by
  intro w n
  obtain ⟨hcheck, rfl⟩ := h.eq
  have hmarks := marks_text hcheck hplain n
  refine ⟨hmarks, ?_, ?_, fun i j row column hrow hcolumn => ?_, fun rows' q' hlength h' => ?_⟩
  · rw [hmarks, List.filterMap_append, filterMap_number?_names, filterMap_number?_numbered,
      List.nil_append]
  · rw [length_flatMap_rowParams, Nat.mul_comm]
  · have hj : j < w := (List.getElem?_eq_some_iff.mp hcolumn).1
    have hvalue : (rows.flatMap s.rowParams)[i * w + j]? = some (row.getD column) := by
      rw [getElem?_flatMap_uniform (length_rowParams s) hj, hrow, Option.bind_some, rowParams,
        List.getElem?_map, hcolumn]
      rfl
    refine ⟨i * w + j + 1, ?_, fun value hmem => ?_, fun hmem => ?_⟩
    · rw [List.getElem?_range' hj, Option.some_inj]
      omega
    · rw [← Row.getD_of_mem hmem]
      exact hvalue
    · rw [← Row.getD_of_not_mem hmem]
      exact hvalue
  · obtain ⟨-, rfl⟩ := h'.eq
    exact congrArg s.text hlength

/-- A column named twice, a row in another order, and a row that lacks a column and has one that is
not asked for. -/
theorem placeholders_take_own_values_of_mixed_rows :
    let s : Insert := { table := "users", columns := ["name", "email", "name"] }
    let a : Row := ⟨[("email", .text "a@x"), ("name", .text "A")], by decide⟩
    let b : Row := ⟨[("age", .int 7), ("name", .text "B")], by decide⟩
    ∃ q, s.onConflict = none ∧ s.Yields [a, b] q ∧
      (marks q.sql).filterMap number? = [1, 2, 3, 4, 5, 6] ∧ q.value? 2 = some (.text "a@x") ∧
      q.value? 5 = some .null ∧ q.value? 6 = some (.text "B") := by
  intro s a b
  have hcheck : s.check = .ok () := check_eq_ok_iff.mpr (by decide)
  have hyields : s.Yields [a, b] ⟨s.text 2, [a, b].flatMap s.rowParams⟩ :=
    .inl (buildBatch_eq_ok_iff.mpr ⟨hcheck, by simp, by decide, rfl⟩)
  obtain ⟨-, hnumbers, -, hvalues, -⟩ := placeholders_take_own_values rfl hyields
  obtain ⟨_, ⟨⟩, hemail, -⟩ := hvalues 0 1 a "email" rfl rfl
  obtain ⟨_, ⟨⟩, -, hlacks⟩ := hvalues 1 1 b "email" rfl rfl
  obtain ⟨_, ⟨⟩, hname, -⟩ := hvalues 1 2 b "name" rfl rfl
  exact ⟨_, rfl, hyields, hnumbers, hemail _ (by simp [a]), hlacks (by decide),
    hname _ (by simp [b])⟩

end Insert

end SchemaKit
