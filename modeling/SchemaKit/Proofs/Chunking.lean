import Mathlib.Algebra.Order.Floor.Div
import SchemaKit.Proofs.Placeholders

/-!
# Rows in chunks

Cutting rows into pieces loses none and keeps their order (`Insert.flatten_chunks`), and each piece
is the next stretch of the rows (`Insert.getElem?_chunks`).  So what is built in chunks binds the
values of all rows, row after row, whatever the size is, and it is built exactly if the first
statement, which has the most rows, does not bind too many.
-/

namespace SchemaKit.Insert

open Sql Statement

variable {α : Type} {size : Nat}

/-! ## Pieces -/

theorem flatten_chunks (size : Nat) (xs : List α) : (chunks size xs).flatten = xs := by
  fun_induction chunks size xs with
  | case1 => rfl
  | case2 x rest ih => rw [List.flatten_cons, ih, List.cons_append, List.take_append_drop]

/-- Each piece is the next stretch, as long as anything is left. -/
theorem getElem?_chunks (hsize : 0 < size) (xs : List α) (i : Nat) :
    (chunks size xs)[i]? =
      if i * size < xs.length then some ((xs.drop (i * size)).take size) else none := by
  fun_induction chunks size xs generalizing i with
  | case1 => simp
  | case2 x rest ih =>
    have htake : x :: rest.take (size - 1) = (x :: rest).take size :=
      (List.take_cons hsize).symm
    cases i with
    | zero => simp [htake]
    | succ i =>
      -- what is left behind the first piece has the same pieces, one place earlier
      have hdrop : (rest.drop (size - 1)).drop (i * size) = (x :: rest).drop ((i + 1) * size) := by
        have hpred : (i + 1) * size = i * size + (size - 1) + 1 := by
          rw [Nat.succ_mul]
          omega
        rw [List.drop_drop, hpred, List.drop_succ_cons, Nat.add_comm]
      have hlength : i * size < (rest.drop (size - 1)).length ↔
          (i + 1) * size < (x :: rest).length := by
        rw [List.length_drop, List.length_cons, Nat.succ_mul]
        omega
      rw [List.getElem?_cons_succ, ih, hdrop]
      simp only [hlength]

/-- There are as many pieces as it takes, the last of which may be shorter. -/
theorem length_chunks (hsize : 0 < size) (xs : List α) :
    (chunks size xs).length = xs.length ⌈/⌉ size := by
  refine eq_of_forall_lt_iff fun i => ?_
  rw [← not_le, ← not_le, ceilDiv_le_iff_le_mul hsize, ← List.getElem?_eq_none_iff,
    getElem?_chunks hsize, not_iff_not, Nat.mul_comm]
  split <;> simp <;> omega

/-! ## Statements -/

variable {s : Insert} {rows : List Row} {qs : List Statement}

/-- Each statement is that of the next stretch of the rows at once. -/
theorem buildBatch_of_getElem? (h : s.buildChunks rows size = .ok qs) {i : Nat} {q : Statement}
    (hq : qs[i]? = some q) : s.buildBatch ((rows.drop (i * size)).take size) = .ok q := by
  obtain ⟨hsize, hcheck, hle, rfl⟩ := buildChunks_eq_ok_iff.mp h
  rw [List.getElem?_map, Option.map_eq_some_iff] at hq
  obtain ⟨piece, hpiece, rfl⟩ := hq
  obtain ⟨hne, hlength⟩ := length_of_mem_chunks hsize (List.mem_of_getElem? hpiece)
  rw [getElem?_chunks hsize] at hpiece
  split at hpiece
  · obtain rfl := Option.some.inj hpiece
    exact buildBatch_eq_ok_iff.mpr
      ⟨hcheck, hne, Nat.le_trans (Nat.mul_le_mul_left _ hlength) hle, rfl⟩
  · cases hpiece

/-- Whatever the size is, all values are bound row after row. -/
theorem flatMap_params_of_buildChunks (h : s.buildChunks rows size = .ok qs) :
    qs.flatMap Statement.params = rows.flatMap s.rowParams := by
  obtain ⟨-, -, -, rfl⟩ := buildChunks_eq_ok_iff.mp h
  calc ((chunks size rows).map fun piece => (⟨s.text piece.length, piece.flatMap s.rowParams⟩ :
        Statement)).flatMap Statement.params
      = (chunks size rows).flatMap fun piece => piece.flatMap s.rowParams := List.flatMap_map ..
    _ = ((chunks size rows).flatMap id).flatMap s.rowParams := List.flatMap_assoc.symm
    _ = rows.flatMap s.rowParams := by rw [List.flatMap_id, flatten_chunks]

/-- The placeholders of rows at once are numbered from one on. -/
theorem numbers_of_buildBatch {q : Statement} (h : s.buildBatch rows = .ok q) :
    List.range' 1 q.params.length <+: (marks q.sql).filterMap Mark.number? := by
  obtain ⟨hcheck, -, -, rfl⟩ := buildBatch_eq_ok_iff.mp h
  rw [length_flatMap_rowParams, Nat.mul_comm]
  exact numbers_isPrefix hcheck rows.length

/-- **Chunks partition the rows.**  If the names are in order, rows are built in chunks exactly if
the first chunk, which has the most rows, does not bind too many values, and else refused with the
number of its values.  There are as many statements as it takes; each is the statement for the next
stretch of the rows at once, with numbers from one on; and all together bind the values of all rows,
row after row, whatever the size is. -/
theorem chunks_partition_rows (hnames : ∀ n ∈ [s.table, s.schema], Identifier.isIdentifier n = true)
    (hne : s.columns ≠ []) (hcolumns : ∀ c ∈ s.columns, Identifier.isIdentifier c = true)
    (hsize : 0 < size) (rows : List Row) :
    let w := s.columns.length
    let n := rows.length
    ((∃ qs, s.buildChunks rows size = .ok qs) ↔ w * min size n ≤ maxBindParams) ∧
    (maxBindParams < w * min size n →
      s.buildChunks rows size = .error (.tooManyParameters (w * min size n))) ∧
    ∀ qs, s.buildChunks rows size = .ok qs →
      qs.length = n ⌈/⌉ size ∧
      (∀ i q, qs[i]? = some q →
        s.buildBatch (rows.extract (i * size) (min ((i + 1) * size) n)) = .ok q ∧
        List.range' 1 q.params.length <+: (marks q.sql).filterMap Mark.number?) ∧
      qs.flatMap Statement.params = rows.flatMap (fun row => s.columns.map row.getD) ∧
      ∀ size' qs', s.buildChunks rows size' = .ok qs' →
        qs'.flatMap Statement.params = qs.flatMap Statement.params := by
  intro w n
  have hcheck : s.check = .ok () := check_eq_ok_iff.mpr ⟨hnames, hne, hcolumns⟩
  refine ⟨⟨?fits, ?builds⟩, ?refused, fun qs hqs => ⟨?length, fun i q hq => ?statement, ?values,
    fun size' qs' hqs' => ?sizes⟩⟩
  case fits =>
    rintro ⟨qs, hqs⟩
    exact (buildChunks_eq_ok_iff.mp hqs).2.2.1
  case builds =>
    exact fun hle => ⟨_, buildChunks_eq_ok_iff.mpr ⟨hsize, hcheck, hle, rfl⟩⟩
  case refused =>
    intro hlimit
    rw [buildChunks_of_check hcheck hsize, if_pos hlimit]
  case length =>
    obtain ⟨-, -, -, rfl⟩ := buildChunks_eq_ok_iff.mp hqs
    rw [List.length_map, length_chunks hsize]
  case statement =>
    have hstretch : rows.extract (i * size) (min ((i + 1) * size) n) =
        (rows.drop (i * size)).take size := by
      rw [List.extract_eq_take_drop, List.take_eq_take_iff, List.length_drop, Nat.succ_mul]
      omega
    have hbatch := buildBatch_of_getElem? hqs hq
    rw [hstretch]
    exact ⟨hbatch, numbers_of_buildBatch hbatch⟩
  case values =>
    exact flatMap_params_of_buildChunks hqs
  case sizes =>
    rw [flatMap_params_of_buildChunks hqs, flatMap_params_of_buildChunks hqs']

/-- Three rows of two columns in chunks of two and of five. -/
theorem chunks_partition_rows_of_short_last :
    let s : Insert := { table := "users", columns := ["name", "email"], onConflict := some "($9)" }
    let rows : List Row := [⟨[("name", .text "A")], by decide⟩,
      ⟨[("email", .text "b@x")], by decide⟩, ⟨[("name", .text "C")], by decide⟩]
    ∃ qs qs', s.buildChunks rows 2 = .ok qs ∧ s.buildChunks rows 5 = .ok qs' ∧ qs.length = 2 ∧
      (∀ q, qs[1]? = some q → s.buildBatch (rows.drop 2) = .ok q ∧
        List.range' 1 q.params.length <+: (marks q.sql).filterMap Mark.number?) ∧
      qs.flatMap Statement.params =
        [.text "A", .null, .null, .text "b@x", .text "C", .null] ∧
      qs'.flatMap Statement.params = qs.flatMap Statement.params := by
  intro s rows
  have hnames : ∀ n ∈ [s.table, s.schema], Identifier.isIdentifier n = true := by decide
  have hcolumns : ∀ c ∈ s.columns, Identifier.isIdentifier c = true := by decide
  have hne : s.columns ≠ [] := List.cons_ne_nil _ _
  obtain ⟨hiff, -, hall⟩ := chunks_partition_rows hnames hne hcolumns (by decide : 0 < 2) rows
  obtain ⟨hiff', -, -⟩ := chunks_partition_rows hnames hne hcolumns (by decide : 0 < 5) rows
  obtain ⟨qs, hqs⟩ := hiff.mpr (by decide)
  obtain ⟨qs', hqs'⟩ := hiff'.mpr (by decide)
  obtain ⟨hlength, hstatements, hvalues, hsizes⟩ := hall qs hqs
  exact ⟨qs, qs', hqs, hqs', hlength.trans (by decide), hstatements 1, hvalues, hsizes 5 qs' hqs'⟩

end SchemaKit.Insert
