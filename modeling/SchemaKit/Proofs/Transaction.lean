import SchemaKit.Proofs.Bookkeeping
import SchemaKit.Proofs.Running

/-!
# What a transaction leaves

As long as nothing else changes the tracking table of a store, the changes a transaction has noted
lead from that table to the one the transaction sees (`Transaction.Replays`).  Hence the commit at
the end of a piece of work never fails, and it leaves exactly what the work has seen and buffered
(`Work.transact_eq`).
-/

namespace SchemaKit

namespace Tracked

theorem applyAll_concat (t : TrackingTable) (clock : Timestamp) (s : Tracked)
    (ops : List TrackingOp) (op : TrackingOp) :
    s.applyAll t clock (ops ++ [op]) =
      match s.applyAll t clock ops with
      | .ok s => (s.apply t clock op).map Prod.snd
      | .error e => .error e := by
  induction ops generalizing s with
  | nil =>
    simp only [List.nil_append, applyAll]
    cases s.apply t clock op <;> rfl
  | cons o ops ih =>
    simp only [List.cons_append, applyAll]
    cases s.apply t clock o with
    | error e => rfl
    | ok r => exact ih r.2

theorem apply_select {t : TrackingTable} {clock : Timestamp} {s s' : Tracked} {rows : List Row}
    (h : s.apply t clock .select = .ok (rows, s')) : s' = s := by
  simp only [apply] at h
  split at h
  · exact (congrArg Prod.snd (Except.ok.inj h)).symm
  · cases h

end Tracked

namespace Transaction

variable {tx : Transaction} {s : Store} {q : Statement}

/-- The changes a transaction has noted lead from the table of a store to the one that the
transaction sees. -/
def Replays (tx : Transaction) (s : Store) : Prop :=
  s.tracked.applyAll tx.table s.clock tx.ops = .ok tx.shadow

theorem replays_start (t : TrackingTable) (s : Store) : (start t s).Replays s := rfl

/-! ## One statement -/

theorem execute_of_refused {e : StoreError} (h : s.classify tx.table q = .error e) :
    tx.execute s q = (.error e, tx, s) := by
  simp only [execute, h]

theorem execute_of_other (h : s.classify tx.table q = .ok none) :
    tx.execute s q = (.ok (s.response q.sql), { tx with statements := tx.statements ++ [q] },
      s.report (.buffering q.sql)) := by
  simp only [execute, h]

theorem execute_of_op_error {op : TrackingOp} {e : StoreError}
    (h : s.classify tx.table q = .ok (some op))
    (ha : tx.shadow.apply tx.table s.clock op = .error e) : tx.execute s q = (.error e, tx, s) := by
  simp only [execute, h, ha]

theorem execute_of_op_ok {op : TrackingOp} {rows : List Row} {shadow : Tracked}
    (h : s.classify tx.table q = .ok (some op))
    (ha : tx.shadow.apply tx.table s.clock op = .ok (rows, shadow)) :
    tx.execute s q =
      (.ok rows,
        { tx with shadow, ops := if op = .select then tx.ops else tx.ops ++ [op] }, s) := by
  simp only [execute, h, ha]

/-- **What a statement of a transaction can do**: it is refused and nothing happens, or it is none of
the table's and is buffered, or it is an operation that is done to the table the transaction sees. -/
theorem execute_cases (tx : Transaction) (s : Store) (q : Statement) :
    (∃ e, tx.execute s q = (.error e, tx, s)) ∨
    (s.classify tx.table q = .ok none ∧ tx.execute s q =
      (.ok (s.response q.sql), { tx with statements := tx.statements ++ [q] },
        s.report (.buffering q.sql))) ∨
    ∃ op rows shadow, s.classify tx.table q = .ok (some op) ∧
      tx.shadow.apply tx.table s.clock op = .ok (rows, shadow) ∧ tx.execute s q =
        (.ok rows,
          { tx with shadow, ops := if op = .select then tx.ops else tx.ops ++ [op] }, s) := by
  cases hc : s.classify tx.table q with
  | error e => exact .inl ⟨e, execute_of_refused hc⟩
  | ok op? =>
    cases op? with
    | none => exact .inr (.inl ⟨rfl, execute_of_other hc⟩)
    | some op =>
      cases ha : tx.shadow.apply tx.table s.clock op with
      | error e => exact .inl ⟨e, execute_of_op_error hc ha⟩
      | ok r => exact .inr (.inr ⟨op, r.1, r.2, rfl, ha, execute_of_op_ok hc ha⟩)

/-- A statement of a transaction changes nothing of the store but what has been reported. -/
theorem execute_store (tx : Transaction) (s : Store) (q : Statement) :
    ∃ journal, (tx.execute s q).2.2 = { s with journal } := by
  rcases tx.execute_cases s q with ⟨e, hr⟩ | ⟨-, hr⟩ | ⟨op, rows, shadow, -, -, hr⟩
  · exact ⟨s.journal, by rw [hr]⟩
  · exact ⟨_, by rw [hr]; rfl⟩
  · exact ⟨s.journal, by rw [hr]⟩

/-- **One statement**: the changes noted so far still lead to what the transaction sees. -/
theorem Replays.execute (h : tx.Replays s) (q : Statement) : (tx.execute s q).2.1.Replays s := by
  rcases tx.execute_cases s q with ⟨e, hr⟩ | ⟨-, hr⟩ | ⟨op, rows, shadow, -, ha, hr⟩
  · rw [hr]
    exact h
  · rw [hr]
    exact h
  · rw [hr]
    unfold Replays at h ⊢
    -- reading is not noted, and need not be, for it leaves the table as it is
    by_cases hs : op = .select
    · subst hs
      rw [Tracked.apply_select ha]
      exact h
    · simp only [if_neg hs]
      rw [Tracked.applyAll_concat, h]
      simp only [ha]
      rfl

/-! ## The end -/

/-- An undisturbed commit leaves what the transaction has seen and buffered. -/
theorem Replays.commit (h : tx.Replays s) :
    tx.commit s =
      (.ok (), { s with tracked := tx.shadow, executed := s.executed ++ tx.statements }) := by
  unfold Replays at h
  simp only [Transaction.commit, h]

end Transaction

namespace Work

variable {α : Type}

/-- **A whole piece of work**: it changes nothing of the store but what has been reported, and the
changes it has noted lead to what its transaction sees. -/
theorem run_replays (w : Work α) {tx : Transaction} {s : Store} (h : tx.Replays s) :
    (w.run tx s).2.1.Replays s ∧ ∃ journal, (w.run tx s).2.2 = { s with journal } := by
  induction w generalizing tx s with
  | done a => exact ⟨h, s.journal, rfl⟩
  | report e next ih =>
    obtain ⟨h', journal, hj⟩ := ih (s := s.report e) h
    exact ⟨h', journal, hj⟩
  | execute q next ih =>
    -- the rest runs on a store with other reports, which the noted changes do not see
    obtain ⟨journal, hj⟩ := tx.execute_store s q
    have hq := h.execute q
    obtain ⟨h', journal', hj'⟩ := ih (tx.execute s q).1 (s := (tx.execute s q).2.2)
      (by rw [hj]; exact hq)
    rw [hj] at h' hj'
    refine ⟨?_, journal', ?_⟩
    · simp only [run, hj]
      exact h'
    · simp only [run, hj]
      exact hj'

/-- **Work in a transaction of its own**: if it succeeds, the store has what the transaction has
seen and buffered, and if it fails, nothing has happened to the store. -/
theorem transact_eq (t : TrackingTable) (s : Store) (w : Work (Except StoreError Unit)) :
    ∃ journal, w.transact t s =
      match w.run (Transaction.start t s) s with
      | (.ok (), tx, _) =>
        (.ok (), { s with
          tracked := tx.shadow, executed := s.executed ++ tx.statements, journal })
      | (.error e, _, _) => (.error e, { s with journal }) := by
  obtain ⟨hr, journal, hj⟩ := w.run_replays (Transaction.replays_start t s)
  unfold transact
  rcases hw : w.run (Transaction.start t s) s with ⟨_ | _, tx, s'⟩
  · rw [hw] at hj
    exact ⟨journal ++ [.transactionDropped], by rw [show s' = { s with journal } from hj]; rfl⟩
  · rw [hw] at hj hr
    -- nothing else has been committed, so the changes are made again without a conflict
    obtain rfl : s' = { s with journal } := hj
    have hr' : tx.Replays { s with journal } := hr
    exact ⟨journal, hr'.commit⟩

/-- A transaction changes the tracking table and the log of a store, and what has been reported, and
nothing else. -/
theorem transact_frame (t : TrackingTable) (s : Store) (w : Work (Except StoreError Unit)) :
    ∃ tracked executed journal, (w.transact t s).2 = { s with tracked, executed, journal } := by
  obtain ⟨journal, h⟩ := w.transact_eq t s
  rw [h]
  rcases w.run (Transaction.start t s) s with ⟨_ | _, tx, s'⟩
  · exact ⟨s.tracked, s.executed, journal, rfl⟩
  · exact ⟨tx.shadow, s.executed ++ tx.statements, journal, rfl⟩

end Work

/-! ## Outside any transaction -/

namespace Store

variable {t : TrackingTable} {s : Store} {q : Statement}

theorem execute_of_refused {e : StoreError} (h : s.classify t q = .error e) :
    s.execute t q = (.error e, s) := by
  simp only [execute, h]

theorem execute_of_other (h : s.classify t q = .ok none) :
    s.execute t q = (.ok (s.response q.sql), { s with
      executed := s.executed ++ [q], journal := s.journal ++ [.executing q.sql] }) := by
  simp only [execute, h]

theorem execute_of_op_error {op : TrackingOp} {e : StoreError}
    (h : s.classify t q = .ok (some op)) (ha : s.tracked.apply t s.clock op = .error e) :
    s.execute t q = (.error e, s) := by
  simp only [execute, h, ha]

theorem execute_of_op_ok {op : TrackingOp} {rows : List Row} {tracked : Tracked}
    (h : s.classify t q = .ok (some op)) (ha : s.tracked.apply t s.clock op = .ok (rows, tracked)) :
    s.execute t q = (.ok rows, { s with tracked }) := by
  simp only [execute, h, ha]

/-- **What a statement outside a transaction can do**: it is refused and nothing happens, or it is none
of the table's and is logged, or it is an operation that is done to the table. -/
theorem execute_cases (t : TrackingTable) (s : Store) (q : Statement) :
    (∃ e, s.execute t q = (.error e, s)) ∨
    (s.classify t q = .ok none ∧ s.execute t q = (.ok (s.response q.sql), { s with
      executed := s.executed ++ [q], journal := s.journal ++ [.executing q.sql] })) ∨
    ∃ op rows tracked, s.classify t q = .ok (some op) ∧
      s.tracked.apply t s.clock op = .ok (rows, tracked) ∧
      s.execute t q = (.ok rows, { s with tracked }) := by
  cases hc : s.classify t q with
  | error e => exact .inl ⟨e, execute_of_refused hc⟩
  | ok op? =>
    cases op? with
    | none => exact .inr (.inl ⟨rfl, execute_of_other hc⟩)
    | some op =>
      cases ha : s.tracked.apply t s.clock op with
      | error e => exact .inl ⟨e, execute_of_op_error hc ha⟩
      | ok r => exact .inr (.inr ⟨op, r.1, r.2, rfl, ha, execute_of_op_ok hc ha⟩)

end Store

/-! ## What a job leaves alone -/

theorem Store.execute_frame (t : TrackingTable) (s : Store) (q : Statement) :
    ∃ tracked executed journal, (s.execute t q).2 = { s with tracked, executed, journal } := by
  rcases s.execute_cases t q with ⟨e, hr⟩ | ⟨-, hr⟩ | ⟨op, rows, tracked, -, -, hr⟩
  · exact ⟨s.tracked, s.executed, s.journal, by rw [hr]⟩
  · exact ⟨s.tracked, _, _, by rw [hr]⟩
  · exact ⟨tracked, s.executed, s.journal, by rw [hr]⟩

/-- **A job** never changes the clock of a store, its failure markers or its canned answers. -/
theorem Job.run_frame {α : Type} (j : Job α) (t : TrackingTable) (s : Store) :
    ∃ tracked executed journal, (j.run t s).2 = { s with tracked, executed, journal } := by
  induction j generalizing s with
  | done a => exact ⟨s.tracked, s.executed, s.journal, rfl⟩
  | report e next ih =>
    obtain ⟨tracked, executed, journal, h⟩ := ih (s.report e)
    exact ⟨tracked, executed, journal, h⟩
  | execute q next ih =>
    obtain ⟨tracked, executed, journal, hq⟩ := s.execute_frame t q
    obtain ⟨tracked', executed', journal', h⟩ := ih (s.execute t q).1 (s.execute t q).2
    exact ⟨tracked', executed', journal', h.trans (by rw [hq])⟩
  | transact w next ih =>
    obtain ⟨tracked, executed, journal, hw⟩ := w.transact_frame t s
    obtain ⟨tracked', executed', journal', h⟩ := ih (w.transact t s).1 (w.transact t s).2
    exact ⟨tracked', executed', journal', h.trans (by rw [hw])⟩

end SchemaKit
