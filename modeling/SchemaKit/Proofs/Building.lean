import SchemaKit.Proofs.Progress
import SchemaKit.Statement.Insert

/-!
# Building inserts

What each way of building an INSERT gives, once the names are in order (`Insert.build_of_check`,
`Insert.buildBatch_of_check`).  A statement for rows at once never binds more than `maxBindParams`
values, and what would is refused with the number of values.  One row by itself is not held to this:
its statement binds as many values as there are columns.
-/

namespace SchemaKit.Insert

variable {s : Insert} {rows : List Row} {size : Nat}

/-! ## Values -/

@[simp] theorem length_rowParams (s : Insert) (row : Row) :
    (s.rowParams row).length = s.columns.length :=
  List.length_map _

theorem length_flatMap_rowParams (s : Insert) (rows : List Row) :
    (rows.flatMap s.rowParams).length = s.columns.length * rows.length := by
  simp [List.length_flatMap, Nat.mul_comm]

/-! ## Names -/

theorem check_eq_ok_iff : s.check = .ok () ↔
    (∀ n ∈ [s.table, s.schema], Sql.Identifier.isIdentifier n = true) ∧ s.columns ≠ [] ∧
      ∀ n ∈ s.columns, Sql.Identifier.isIdentifier n = true := by
  rw [← Statement.names_eq_ok_iff, ← Statement.names_eq_ok_iff, check]
  cases Statement.names [s.table, s.schema] with
  | error e => simp [bind, Except.bind]
  | ok u =>
    cases hcolumns : s.columns with
    | nil => simp [bind, Except.bind, throw, throwThe, MonadExceptOf.throw]
    | cons c rest => simp [bind, Except.bind]

/-- Nothing is built unless the names are in order. -/
theorem build_of_refused {e : BuildError} (h : s.check = .error e) (row : Row) :
    s.build row = .error e := by
  rw [build, h]
  rfl

theorem buildBatch_of_refused {e : BuildError} (h : s.check = .error e) (rows : List Row) :
    s.buildBatch rows = .error e := by
  rw [buildBatch, h]
  rfl

/-! ## Statements -/

theorem build_of_check (h : s.check = .ok ()) (row : Row) :
    s.build row = .ok ⟨s.text 1, s.rowParams row⟩ := by
  rw [build, h]
  rfl

theorem buildBatch_of_check (h : s.check = .ok ()) (hrows : rows ≠ []) :
    s.buildBatch rows =
      if maxBindParams < s.columns.length * rows.length then
        .error (.tooManyParameters (s.columns.length * rows.length))
      else .ok ⟨s.text rows.length, rows.flatMap s.rowParams⟩ := by
  rw [buildBatch, h]
  cases rows with
  | nil => exact absurd rfl hrows
  | cons row rest =>
    by_cases hlimit : maxBindParams < s.columns.length * (row :: rest).length
    · simp only [if_pos hlimit]
      rfl
    · simp only [if_neg hlimit]
      rfl

/-! ## Chunks -/

/-- Every piece has an element, and as many as fit at most. -/
theorem length_of_mem_chunks {α : Type} {size : Nat} {xs piece : List α} (hsize : 0 < size)
    (h : piece ∈ chunks size xs) : piece ≠ [] ∧ piece.length ≤ min size xs.length := by
  fun_induction chunks size xs with
  | case1 => cases h
  | case2 x rest ih =>
    rcases List.mem_cons.mp h with rfl | h
    · simp only [List.length_cons, List.length_take]
      exact ⟨List.cons_ne_nil _ _, by omega⟩
    · obtain ⟨hne, hle⟩ := ih h
      simp only [List.length_cons, List.length_drop] at hle ⊢
      exact ⟨hne, by omega⟩

theorem buildChunks_of_pos (hsize : 0 < size) :
    s.buildChunks rows size = s.check >>= fun _ => (chunks size rows).mapM s.buildBatch := by
  rw [buildChunks, if_neg (Nat.ne_of_gt hsize)]

/-- The first statement has the most rows. -/
theorem buildChunks_of_check (h : s.check = .ok ()) (hsize : 0 < size) :
    s.buildChunks rows size =
      if maxBindParams < s.columns.length * min size rows.length then
        .error (.tooManyParameters (s.columns.length * min size rows.length))
      else .ok ((chunks size rows).map fun piece =>
        ⟨s.text piece.length, piece.flatMap s.rowParams⟩) := by
  have hmapM : s.buildChunks rows size = (chunks size rows).mapM s.buildBatch := by
    rw [buildChunks_of_pos hsize, h]
    rfl
  rw [hmapM]
  split
  · rename_i hlimit
    cases rows with
    | nil => exact absurd hlimit (by simp)
    | cons row rest =>
      -- the first piece is as long as any, so it is refused before another is looked at
      have hfirst : (row :: rest.take (size - 1)).length = min size (row :: rest).length := by
        simp only [List.length_cons, List.length_take]
        omega
      rw [chunks, List.mapM_cons, buildBatch_of_check h (List.cons_ne_nil _ _), hfirst,
        if_pos hlimit]
      rfl
  · rename_i hlimit
    refine mapM_eq_ok fun piece hpiece => ?_
    obtain ⟨hne, hle⟩ := length_of_mem_chunks hsize hpiece
    rw [buildBatch_of_check h hne,
      if_neg fun hc => hlimit (Nat.lt_of_lt_of_le hc (Nat.mul_le_mul_left _ hle))]

/-! ## What has been built -/

theorem build_eq_ok_iff {row : Row} {q : Statement} : s.build row = .ok q ↔
    s.check = .ok () ∧ q = ⟨s.text 1, s.rowParams row⟩ := by
  constructor
  · intro h
    obtain ⟨⟨⟩, hcheck, -⟩ := exists_of_bind h
    rw [build_of_check hcheck] at h
    exact ⟨hcheck, (Except.ok.inj h).symm⟩
  · rintro ⟨hcheck, rfl⟩
    exact build_of_check hcheck row

theorem buildBatch_eq_ok_iff {q : Statement} : s.buildBatch rows = .ok q ↔
    s.check = .ok () ∧ rows ≠ [] ∧ s.columns.length * rows.length ≤ maxBindParams ∧
      q = ⟨s.text rows.length, rows.flatMap s.rowParams⟩ := by
  constructor
  · intro h
    obtain ⟨⟨⟩, hcheck, -⟩ := exists_of_bind h
    have hrows : rows ≠ [] := by
      rintro rfl
      rw [buildBatch, hcheck] at h
      cases h
    rw [buildBatch_of_check hcheck hrows] at h
    split at h
    · cases h
    · rename_i hlimit
      exact ⟨hcheck, hrows, Nat.not_lt.mp hlimit, (Except.ok.inj h).symm⟩
  · rintro ⟨hcheck, hrows, hle, rfl⟩
    rw [buildBatch_of_check hcheck hrows, if_neg (Nat.not_lt.mpr hle)]

theorem buildChunks_eq_ok_iff {qs : List Statement} : s.buildChunks rows size = .ok qs ↔
    0 < size ∧ s.check = .ok () ∧ s.columns.length * min size rows.length ≤ maxBindParams ∧
      qs = (chunks size rows).map fun piece =>
        ⟨s.text piece.length, piece.flatMap s.rowParams⟩ := by
  constructor
  · intro h
    have hsize : 0 < size := by
      rw [Nat.pos_iff_ne_zero]
      rintro rfl
      cases h
    obtain ⟨⟨⟩, hcheck, -⟩ := exists_of_bind ((buildChunks_of_pos hsize).symm.trans h)
    rw [buildChunks_of_check hcheck hsize] at h
    split at h
    · cases h
    · rename_i hlimit
      exact ⟨hsize, hcheck, Nat.not_lt.mp hlimit, (Except.ok.inj h).symm⟩
  · rintro ⟨hsize, hcheck, hle, rfl⟩
    rw [buildChunks_of_check hcheck hsize, if_neg (Nat.not_lt.mpr hle)]

/-- What is built in chunks is built of rows at once. -/
theorem exists_batch_of_mem {qs : List Statement} {q : Statement}
    (h : s.buildChunks rows size = .ok qs) (hq : q ∈ qs) : ∃ piece, s.buildBatch piece = .ok q := by
  obtain ⟨hsize, hcheck, hle, rfl⟩ := buildChunks_eq_ok_iff.mp h
  obtain ⟨piece, hpiece, rfl⟩ := List.mem_map.mp hq
  obtain ⟨hne, hlength⟩ := length_of_mem_chunks hsize hpiece
  exact ⟨piece, buildBatch_eq_ok_iff.mpr
    ⟨hcheck, hne, Nat.le_trans (Nat.mul_le_mul_left _ hlength) hle, rfl⟩⟩

/-! ## The limit -/

theorem length_params_of_buildBatch {q : Statement} (h : s.buildBatch rows = .ok q) :
    q.params.length ≤ maxBindParams := by
  obtain ⟨-, -, hle, rfl⟩ := buildBatch_eq_ok_iff.mp h
  rw [length_flatMap_rowParams]
  exact hle

theorem length_params_of_buildChunks {qs : List Statement}
    (h : s.buildChunks rows size = .ok qs) : ∀ q ∈ qs, q.params.length ≤ maxBindParams := by
  intro q hq
  obtain ⟨piece, hpiece⟩ := exists_batch_of_mem h hq
  exact length_params_of_buildBatch hpiece

/-- **Only the statement for a single row by itself may exceed the limit.**  What is built for rows
at once or in chunks binds `maxBindParams` values at most, and if the names are in order, what would
bind more is refused with their number.  One row by itself is never refused for it: its statement
binds a value for each column, so it is the batch of this row exactly if there are few enough. -/
theorem only_single_rows_exceed_limit (s : Insert) :
    (∀ rows q, s.buildBatch rows = .ok q → q.params.length ≤ maxBindParams) ∧
    (∀ rows size qs, s.buildChunks rows size = .ok qs →
      ∀ q ∈ qs, q.params.length ≤ maxBindParams) ∧
    (∀ row q, s.build row = .ok q → q.params.length = s.columns.length) ∧
    (s.check = .ok () →
      (∀ rows, maxBindParams < s.columns.length * rows.length →
        s.buildBatch rows = .error (.tooManyParameters (s.columns.length * rows.length))) ∧
      (∀ rows size, 0 < size → maxBindParams < s.columns.length * min size rows.length →
        s.buildChunks rows size =
          .error (.tooManyParameters (s.columns.length * min size rows.length))) ∧
      ∀ row, ∃ q, s.build row = .ok q) ∧
    ∀ row, s.build row = s.buildBatch [row] ↔
      (s.check = .ok () → s.columns.length ≤ maxBindParams) := by
  refine ⟨fun rows q h => length_params_of_buildBatch h,
    fun rows size qs h => length_params_of_buildChunks h, fun row q h => ?_,
    fun hcheck => ⟨fun rows hlimit => ?_, fun rows size hsize hlimit => ?_, fun row => ?_⟩,
    fun row => ?_⟩
  · obtain ⟨-, rfl⟩ := build_eq_ok_iff.mp h
    exact length_rowParams s row
  · have hrows : rows ≠ [] := by
      rintro rfl
      simp at hlimit
    rw [buildBatch_of_check hcheck hrows, if_pos hlimit]
  · rw [buildChunks_of_check hcheck hsize, if_pos hlimit]
  · exact ⟨_, build_of_check hcheck row⟩
  · cases hcheck : s.check with
    | error e => simp [build_of_refused hcheck, buildBatch_of_refused hcheck]
    | ok u =>
      rw [build_of_check hcheck, buildBatch_of_check hcheck (List.cons_ne_nil _ _)]
      simp only [List.length_singleton, Nat.mul_one, List.flatMap_singleton, forall_const]
      split
      · rename_i hlimit
        simp [Nat.not_le.mpr hlimit]
      · rename_i hlimit
        simp [Nat.not_lt.mp hlimit]

/-- A row of one column too many is refused as a batch, but not by itself. -/
theorem wide_row_exceeds_limit :
    let s : Insert := { table := "t", columns := List.replicate 65536 "a" }
    ∃ q, s.build ∅ = .ok q ∧ q.params.length = 65536 ∧ maxBindParams < q.params.length ∧
      s.buildBatch [∅] = .error (.tooManyParameters 65536) := by
  intro s
  have hlength : s.columns.length = 65536 := List.length_replicate
  have hcheck : s.check = .ok () := by
    refine check_eq_ok_iff.mpr ⟨by decide, ?_, fun n hn => ?_⟩
    · exact List.ne_nil_of_length_pos (by omega)
    · obtain rfl : n = "a" := List.eq_of_mem_replicate hn
      decide
  have hparams : (s.rowParams ∅).length = 65536 := (length_rowParams s ∅).trans hlength
  refine ⟨_, build_of_check hcheck ∅, hparams, ?_, ?_⟩
  · rw [hparams]
    decide
  · rw [buildBatch_of_check hcheck (List.cons_ne_nil _ _), hlength]
    rfl

end SchemaKit.Insert
