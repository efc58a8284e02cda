import SchemaKit.Proofs.Books
import SchemaKit.Proofs.Built
import SchemaKit.Proofs.Undisturbed

/-!
# Builders beside a tracking table

Whatever a builder is given, a store never takes what it yields for a statement of its tracking
table, not even where it names that very table and its columns.  So such statements can be run in any
number, at any time and in or outside a transaction: those without a failure marker are logged, and
the tracking table stays as it is (`builders_leave_tracking`).
-/

namespace SchemaKit

/-! ## Builders -/

/-- A builder with all that it is given. -/
inductive Builder where
  | insert (s : Insert) (row : Row)
  | insertBatch (s : Insert) (rows : List Row)
  | insertChunks (s : Insert) (rows : List Row) (size : Nat)
  | select (s : Select)
  | index (s : Index)
  | hypertable (s : Hypertable)
  | compression (s : Compression)
  | policy (p : Policy) (schema table interval : String)

namespace Builder

/-- The statements that a builder yields, of which there may be several for rows in chunks only. -/
def build : Builder → Except BuildError (List Statement)
  | insert s row => (s.build row).map fun q => [q]
  | insertBatch s rows => (s.buildBatch rows).map fun q => [q]
  | insertChunks s rows size => s.buildChunks rows size
  | select s => s.build.map fun q => [q]
  | index s => s.build.map fun q => [q]
  | hypertable s => s.build.map fun q => [q]
  | compression s => s.build.map fun q => [q]
  | policy p schema table interval => (p.build schema table interval).map fun q => [q]

variable {b : Builder} {qs : List Statement} {q : Statement}

theorem eq_ok_of_mem {built? : Except BuildError Statement}
    (h : built?.map (fun q => [q]) = .ok qs) (hq : q ∈ qs) : built? = .ok q := by
  cases built? with
  | error e => cases h
  | ok q' =>
    obtain rfl : [q'] = qs := Except.ok.inj h
    rw [List.mem_singleton.mp hq]

theorem built_of_mem (h : b.build = .ok qs) (hq : q ∈ qs) : q.Built := by
  cases b with
  | insert s row => exact .insert (eq_ok_of_mem h hq)
  | insertBatch s rows => exact .insertBatch (eq_ok_of_mem h hq)
  | insertChunks s rows size =>
    obtain ⟨piece, hpiece⟩ := Insert.exists_batch_of_mem h hq
    exact .insertBatch hpiece
  | select s => exact .select (eq_ok_of_mem h hq)
  | index s => exact .index (eq_ok_of_mem h hq)
  | hypertable s => exact .hypertable (eq_ok_of_mem h hq)
  | compression s => exact .compression (eq_ok_of_mem h hq)
  | policy p schema table interval => exact .policy (eq_ok_of_mem h hq)

end Builder

/-! ## Runs of built statements -/

namespace Store

/-- What a store answers to a statement that is none of its tracking table's. -/
def reply (s : Store) (q : Statement) : Except StoreError (List Row) :=
  match s.failure? q.sql with
  | some marker => .error (.injected marker)
  | none => .ok (s.response q.sql)

/-- The statements in which none of the failure markers of a store stands. -/
def unmarked (s : Store) (qs : List Statement) : List Statement :=
  qs.filter fun q => (s.failure? q.sql).isNone

variable {s : Store} {q : Statement}

theorem unmarked_cons_of_some {marker : String} (h : s.failure? q.sql = some marker)
    (qs : List Statement) : s.unmarked (q :: qs) = s.unmarked qs := by
  have hmarked : ¬(s.failure? q.sql).isNone = true := by
    rw [h]
    exact Bool.false_ne_true
  exact List.filter_cons_of_neg hmarked

theorem unmarked_cons_of_none (h : s.failure? q.sql = none) (qs : List Statement) :
    s.unmarked (q :: qs) = q :: s.unmarked qs := by
  have hnone : (s.failure? q.sql).isNone = true := by
    rw [h]
    rfl
  exact List.filter_cons_of_pos hnone

/-- **Outside any transaction** a built statement is refused for a failure marker, or logged. -/
theorem execute_built (t : TrackingTable) (s : Store) (h : q.Built) :
    ∃ journal, s.execute t q =
      (s.reply q, { s with executed := s.executed ++ s.unmarked [q], journal }) := by
  unfold reply
  cases hf : s.failure? q.sql with
  | some marker =>
    refine ⟨s.journal, ?_⟩
    rw [execute_of_refused (classify_of_marked hf), unmarked_cons_of_some hf]
    simp [unmarked]
  | none =>
    have hother := (classify_of_unmarked hf).trans (TrackingOp.ofStatement_of_built t h)
    refine ⟨s.journal ++ [.executing q.sql], ?_⟩
    rw [execute_of_other hother, unmarked_cons_of_none hf]
    rfl

/-- A run of built statements outside any transaction. -/
theorem executeEach_built (t : TrackingTable) (s : Store) {run : List (Timestamp × Statement)}
    (h : ∀ step ∈ run, step.2.Built) :
    ∃ clock journal, s.executeEach t run = (run.map fun step => s.reply step.2,
      { s with clock, executed := s.executed ++ s.unmarked (run.map Prod.snd), journal }) := by
  -- what a store answers and logs hangs on its markers alone, which no statement changes
  induction run generalizing s with
  | nil =>
    refine ⟨s.clock, s.journal, ?_⟩
    simp [executeEach, unmarked]
  | cons step rest ih =>
    obtain ⟨hstep, hrest⟩ := List.forall_mem_cons.mp h
    obtain ⟨journal, hexecute⟩ := execute_built t { s with clock := step.1 } hstep
    obtain ⟨clock, journal', heach⟩ :=
      ih { s with clock := step.1, executed := s.executed ++ s.unmarked [step.2], journal } hrest
    have hsplit : s.unmarked ((step :: rest).map Prod.snd) =
        s.unmarked [step.2] ++ s.unmarked (rest.map Prod.snd) := List.filter_append [step.2] _
    refine ⟨clock, journal', ?_⟩
    unfold executeEach
    rw [hexecute]
    simp only
    rw [hsplit, ← List.append_assoc]
    exact congrArg (fun r => (s.reply step.2 :: r.1, r.2)) heach

end Store

namespace Transaction

variable {q : Statement}

/-- **In a transaction** a built statement is refused for a failure marker, or buffered. -/
theorem execute_built (tx : Transaction) (s : Store) (h : q.Built) :
    ∃ journal, tx.execute s q =
      (s.reply q, { tx with statements := tx.statements ++ s.unmarked [q] },
        { s with journal }) := by
  unfold Store.reply
  cases hf : s.failure? q.sql with
  | some marker =>
    refine ⟨s.journal, ?_⟩
    rw [execute_of_refused (Store.classify_of_marked hf), Store.unmarked_cons_of_some hf]
    simp [Store.unmarked]
  | none =>
    have hother := (Store.classify_of_unmarked hf).trans
      (TrackingOp.ofStatement_of_built tx.table h)
    refine ⟨s.journal ++ [.buffering q.sql], ?_⟩
    rw [execute_of_other hother, Store.unmarked_cons_of_none hf]
    rfl

/-- A run of built statements in a transaction. -/
theorem executeEach_built (tx : Transaction) (s : Store) {run : List (Timestamp × Statement)}
    (h : ∀ step ∈ run, step.2.Built) :
    ∃ clock journal, tx.executeEach s run = (run.map fun step => s.reply step.2,
      { tx with statements := tx.statements ++ s.unmarked (run.map Prod.snd) },
      { s with clock, journal }) := by
  induction run generalizing tx s with
  | nil =>
    refine ⟨s.clock, s.journal, ?_⟩
    simp [executeEach, Store.unmarked]
  | cons step rest ih =>
    obtain ⟨hstep, hrest⟩ := List.forall_mem_cons.mp h
    obtain ⟨journal, hexecute⟩ := execute_built tx { s with clock := step.1 } hstep
    obtain ⟨clock, journal', heach⟩ :=
      ih { tx with statements := tx.statements ++ s.unmarked [step.2] }
        { s with clock := step.1, journal } hrest
    have hsplit : s.unmarked ((step :: rest).map Prod.snd) =
        s.unmarked [step.2] ++ s.unmarked (rest.map Prod.snd) := List.filter_append [step.2] _
    refine ⟨clock, journal', ?_⟩
    unfold executeEach
    rw [hexecute]
    simp only
    rw [hsplit, ← List.append_assoc]
    exact congrArg (fun r => (s.reply step.2 :: r.1, r.2)) heach

end Transaction

/-! ## The tracking table beside them -/

/-- **What builders yield is never taken for a statement of a tracking table.**  Whatever the table
is called and whatever the builders are given, no statement of a run is an operation on it.  Outside
any transaction each is answered by itself, those without a failure marker are logged in order, and
the tracking table is as before.  In an open transaction they are buffered, and neither what it sees
of the table nor what it has noted changes; committed by themselves they are logged likewise. -/
theorem builders_leave_tracking (t : TrackingTable) (s : Store) (tx : Transaction)
    {run : List (Timestamp × Statement)}
    (h : ∀ step ∈ run, ∃ b qs, Builder.build b = .ok qs ∧ step.2 ∈ qs) :
    let replies := run.map fun step => s.reply step.2
    let logged := s.unmarked (run.map Prod.snd)
    let outside := s.executeEach t run
    let inside := tx.executeEach s run
    let own := (Transaction.start t s).executeEach s run
    let committed := own.2.1.commit own.2.2
    (∀ step ∈ run, TrackingOp.ofStatement t step.2 = .ok none) ∧
    (outside.1 = replies ∧ outside.2.executed = s.executed ++ logged ∧
      outside.2.tracked = s.tracked) ∧
    (inside.1 = replies ∧ inside.2.1 = { tx with statements := tx.statements ++ logged } ∧
      inside.2.2.executed = s.executed ∧ inside.2.2.tracked = s.tracked) ∧
    committed.1 = .ok () ∧ committed.2.executed = s.executed ++ logged ∧
      committed.2.tracked = s.tracked := by
  intro replies logged outside inside own committed
  have hbuilt : ∀ step ∈ run, step.2.Built := by
    intro step hstep
    obtain ⟨b, qs, hb, hq⟩ := h step hstep
    exact Builder.built_of_mem hb hq
  obtain ⟨clock, journal, houtside⟩ := s.executeEach_built t hbuilt
  obtain ⟨clock', journal', hinside⟩ := tx.executeEach_built s hbuilt
  obtain ⟨clock'', journal'', hown⟩ := (Transaction.start t s).executeEach_built s hbuilt
  refine ⟨fun step hstep => TrackingOp.ofStatement_of_built t (hbuilt step hstep), ?_, ?_, ?_⟩
  · have hrun : outside = _ := houtside
    rw [hrun]
    exact ⟨rfl, rfl, rfl⟩
  · have hrun : inside = _ := hinside
    rw [hrun]
    exact ⟨rfl, rfl, rfl, rfl⟩
  · have hcommit : committed = (.ok (), { s with
        clock := clock'', executed := s.executed ++ logged, journal := journal'' }) := by
      have hrun : own = _ := hown
      unfold committed
      rw [hrun]
      rfl
    rw [hcommit]
    exact ⟨rfl, rfl, rfl⟩

/-- A row and a question for the tracking table itself, by its own name and columns. -/
theorem builders_leave_tracking_of_own_table :
    let columns := ["version", "name"]
    let insert : Insert := { table := "schema_migrations", columns }
    let row := Row.ofList [("version", .int 5), ("name", .text "x")]
    let select : Select := { table := "schema_migrations", columns, orderBy := some "version" }
    let q : Statement := ⟨"INSERT INTO public.schema_migrations (version, name) VALUES ($1, $2)",
      [.int 5, .text "x"]⟩
    let q' : Statement :=
      ⟨"SELECT version, name FROM public.schema_migrations ORDER BY version", []⟩
    let s := ({ clock := ⟨⟨2024, 1, 1⟩, 0, 0, 0, 0⟩ } : Store).seed 5 "a"
    let run := [(s.clock, q), (s.clock, q')]
    insert.build row = .ok q ∧ select.build = .ok q' ∧
      (∀ step ∈ run, ∃ b qs, Builder.build b = .ok qs ∧ step.2 ∈ qs) ∧
      (s.executeEach .standard run).2.executed = [q, q'] ∧
      (s.executeEach .standard run).2.tracked = s.tracked := by
  intro columns insert row select q q' s run
  have hinsert : insert.build row = .ok q := by
    have hcheck : insert.check = .ok () := by decide +kernel
    have htext : insert.text 1 = q.sql := by decide +kernel
    rw [Insert.build_of_check hcheck, htext]
    rfl
  have hselect : select.build = .ok q' := by
    have hnames : Statement.names columns = .ok () := by decide +kernel
    have htable : Statement.names [select.table, select.schema] = .ok () := by decide +kernel
    have htext : select.text = q'.sql := by decide +kernel
    unfold Select.build
    rw [htable, hnames, htext]
    rfl
  have hyielded : ∀ step ∈ run, ∃ b qs, Builder.build b = .ok qs ∧ step.2 ∈ qs := by
    intro step hstep
    simp only [run, List.mem_cons, List.not_mem_nil, or_false] at hstep
    rcases hstep with rfl | rfl
    · exact ⟨.insert insert row, [q], congrArg (Except.map _) hinsert, List.mem_singleton_self q⟩
    · exact ⟨.select select, [q'], congrArg (Except.map _) hselect, List.mem_singleton_self q'⟩
  obtain ⟨-, ⟨-, hlogged, htracked⟩, -⟩ :=
    builders_leave_tracking .standard s (.start .standard s) hyielded
  exact ⟨hinsert, hselect, hyielded, hlogged, htracked⟩

end SchemaKit
