import SchemaKit.Proofs.Books
import SchemaKit.Proofs.Conflicts

/-!
# While a transaction is open

Only one transaction is open at a time, but statements outside it are not held up by it.  A history
(`Happening`) interleaves what the transaction runs with what happens meanwhile.  What the
transaction has noted can be read off its answers (`ops_during`, `statements_during`), nothing of it
shows in the store (`store_during`), and the noted changes stay possible on the table the transaction
started from (`Follows`).  Hence a commit fails exactly if the changes clash with the table as it then
is.
-/

namespace SchemaKit

/-! ## Histories -/

/-- What happens to a store outside the transaction that is open on it.  Handles on one store may
differ in what they take for the tracking table. -/
inductive Outside where
  | execute (t : TrackingTable) (q : Statement)
  | seed (version : Int64) (name : String)
  | failOn (marker : String)
  | clearFailures
  | respondTo (marker : String) (rows : List Row)
  | wait (now : Timestamp)

/-- What happens while a transaction is open: it runs a statement, or something else happens. -/
inductive Happening where
  | inside (q : Statement)
  | outside (o : Outside)

/-- What happens outside the transaction, if it is that. -/
def Happening.outside? : Happening → Option Outside
  | inside _ => none
  | outside o => some o

/-- A statement with its answer. -/
structure Answered where
  statement : Statement
  answer : Except StoreError (List Row)

/-- The change of the tracking table that a statement has made, as its answer tells. -/
def Answered.change? (t : TrackingTable) (x : Answered) : Option TrackingOp :=
  match x.answer, TrackingOp.ofStatement t x.statement with
  | .ok _, .ok (some op) => if op = .select then none else some op
  | _, _ => none

/-- A statement that was not refused and is none of the tracking table's. -/
def Answered.other? (t : TrackingTable) (x : Answered) : Option Statement :=
  match x.answer, TrackingOp.ofStatement t x.statement with
  | .ok _, .ok none => some x.statement
  | _, _ => none

/-- What becomes of a store by what happens outside a transaction. -/
def Store.undergo (s : Store) : Outside → Store
  | .execute t q => (s.execute t q).2
  | .seed version name => s.seed version name
  | .failOn marker => s.failOn marker
  | .clearFailures => s.clearFailures
  | .respondTo marker rows => s.respondTo marker rows
  | .wait now => { s with clock := now }

/-- A store with its journal left aside. -/
def Store.unreported (s : Store) : Store :=
  { s with journal := [] }

/-- Goes through a history of an open transaction: the statements it has run with their answers, the
transaction and the store at the end. -/
def Transaction.during (tx : Transaction) (s : Store) :
    List Happening → List Answered × Transaction × Store
  | [] => ([], tx, s)
  | .inside q :: rest =>
    let (answer, tx, s) := tx.execute s q
    let (answered, tx, s) := tx.during s rest
    (⟨q, answer⟩ :: answered, tx, s)
  | .outside o :: rest => tx.during (s.undergo o) rest

variable {t : TrackingTable} {base : Tracked} {tx : Transaction} {s s' : Store} {q : Statement}

/-! ## What the answers tell -/

theorem filterMap_cons_toList {α β : Type} (f : α → Option β) (x : α) (l : List α) :
    (x :: l).filterMap f = (f x).toList ++ l.filterMap f := by
  rw [List.filterMap_cons]
  cases f x <;> rfl

theorem Store.ofStatement_of_classify {op? : Option TrackingOp} (h : s.classify t q = .ok op?) :
    TrackingOp.ofStatement t q = .ok op? := by
  cases hf : s.failure? q.sql with
  | some marker =>
    rw [Store.classify_of_marked hf] at h
    cases h
  | none => rwa [Store.classify_of_unmarked hf] at h

namespace Transaction

/-- **One statement**: what the transaction notes of it is what its answer tells. -/
theorem notes_execute (tx : Transaction) (s : Store) (q : Statement) :
    let r := tx.execute s q
    r.2.1.table = tx.table ∧
      r.2.1.ops = tx.ops ++ (Answered.change? tx.table ⟨q, r.1⟩).toList ∧
      r.2.1.statements = tx.statements ++ (Answered.other? tx.table ⟨q, r.1⟩).toList := by
  rcases tx.execute_cases s q with ⟨e, hr⟩ | ⟨hc, hr⟩ | ⟨op, rows, shadow, hc, -, hr⟩
  · simp [hr, Answered.change?, Answered.other?]
  · simp [hr, Answered.change?, Answered.other?, Store.ofStatement_of_classify hc]
  · by_cases hs : op = .select
    · simp [hr, Answered.change?, Answered.other?, Store.ofStatement_of_classify hc, hs]
    · simp [hr, Answered.change?, Answered.other?, Store.ofStatement_of_classify hc, hs]

/-- **A history**: what the transaction has noted is what the answers tell. -/
theorem notes_during (tx : Transaction) (s : Store) (history : List Happening) :
    let r := tx.during s history
    r.2.1.table = tx.table ∧
      r.2.1.ops = tx.ops ++ r.1.filterMap (Answered.change? tx.table) ∧
      r.2.1.statements = tx.statements ++ r.1.filterMap (Answered.other? tx.table) := by
  induction history generalizing tx s with
  | nil => exact ⟨rfl, (List.append_nil _).symm, (List.append_nil _).symm⟩
  | cons happening rest ih =>
    cases happening with
    | outside o => exact ih tx (s.undergo o)
    | inside q =>
      obtain ⟨htable, hops, hstatements⟩ := tx.notes_execute s q
      obtain ⟨htable', hops', hstatements'⟩ := ih (tx.execute s q).2.1 (tx.execute s q).2.2
      rw [htable] at htable' hops' hstatements'
      rw [hops, List.append_assoc] at hops'
      rw [hstatements, List.append_assoc] at hstatements'
      refine ⟨htable', hops'.trans ?_, hstatements'.trans ?_⟩
      · rw [← filterMap_cons_toList]
        rfl
      · rw [← filterMap_cons_toList]
        rfl

/-! ## What shows in the store -/

/-- What has been reported does not matter to what happens. -/
theorem unreported_undergo (s : Store) (o : Outside) :
    (s.unreported.undergo o).unreported = (s.undergo o).unreported := by
  cases o with
  | execute t q =>
    change (s.unreported.execute t q).2.unreported = (s.execute t q).2.unreported
    -- what a statement is, and what the table makes of it, does not hang on the journal
    have hsame : s.unreported.classify t q = s.classify t q := rfl
    cases hc : s.classify t q with
    | error e => rw [Store.execute_of_refused hc, Store.execute_of_refused (hsame.trans hc)]; rfl
    | ok op? =>
      cases op? with
      | none => rw [Store.execute_of_other hc, Store.execute_of_other (hsame.trans hc)]; rfl
      | some op =>
        cases ha : s.tracked.apply t s.clock op with
        | error e =>
          rw [Store.execute_of_op_error hc ha, Store.execute_of_op_error (hsame.trans hc) ha]
          rfl
        | ok answer =>
          rw [Store.execute_of_op_ok hc ha, Store.execute_of_op_ok (hsame.trans hc) ha]
          rfl
  | seed version name => rfl
  | failOn marker => rfl
  | clearFailures => rfl
  | respondTo marker rows => rfl
  | wait now => rfl

theorem unreported_foldl (h : s.unreported = s'.unreported) (os : List Outside) :
    (os.foldl Store.undergo s).unreported = (os.foldl Store.undergo s').unreported := by
  induction os generalizing s s' with
  | nil => exact h
  | cons o os ih =>
    refine ih ?_
    rw [← unreported_undergo s, h, unreported_undergo s']

/-- **Nothing of an open transaction shows**: the store is as if only the rest had happened. -/
theorem store_during (tx : Transaction) (s : Store) (history : List Happening) :
    (tx.during s history).2.2.unreported =
      ((history.filterMap Happening.outside?).foldl Store.undergo s).unreported := by
  induction history generalizing tx s with
  | nil => rfl
  | cons happening rest ih =>
    cases happening with
    | outside o => exact ih tx (s.undergo o)
    | inside q =>
      refine (ih (tx.execute s q).2.1 (tx.execute s q).2.2).trans ?_
      -- what is run inside only adds to the journal
      obtain ⟨journal, hj⟩ := tx.execute_store s q
      have hsame : (tx.execute s q).2.2.unreported = s.unreported := by rw [hj]; rfl
      exact unreported_foldl hsame _

/-! ## What stays possible -/

/-- A transaction follows a table: the changes it has noted can be made again on it, and if it was
there, the table of the store still is. -/
structure Follows (base : Tracked) (tx : Transaction) (s : Store) : Prop where
  repeats : tx.Repeats base
  created : base.created = true → s.tracked.created = true

theorem created_undergo (h : s.tracked.created = true) (o : Outside) :
    (s.undergo o).tracked.created = true := by
  cases o with
  | execute t q =>
    change (s.execute t q).2.tracked.created = true
    rcases s.execute_cases t q with ⟨e, hr⟩ | ⟨-, hr⟩ | ⟨op, rows, tracked, -, ha, hr⟩
    · rw [hr]
      exact h
    · rw [hr]
      exact h
    · rw [hr]
      exact (Tracked.allows_of_apply ha).2 ▸ Tracked.created_change h
  | seed version name => rfl
  | failOn marker => exact h
  | clearFailures => exact h
  | respondTo marker rows => exact h
  | wait now => exact h

theorem Follows.during (h : Follows base tx s) (history : List Happening) :
    Follows base (tx.during s history).2.1 (tx.during s history).2.2 := by
  induction history generalizing tx s with
  | nil => exact h
  | cons happening rest ih =>
    cases happening with
    | outside o => exact ih ⟨h.repeats, fun hb => created_undergo (h.created hb) o⟩
    | inside q =>
      obtain ⟨journal, hj⟩ := tx.execute_store s q
      have hsame : (tx.execute s q).2.2.tracked = s.tracked := by rw [hj]
      exact ih ⟨h.repeats.execute s q, fun hb => hsame.symm ▸ h.created hb⟩

/-! ## The commit -/

open TrackingOp (Clashes first?)

/-- **The commit** of a transaction that follows a table makes all changes if they do not clash with
the table of the store, and else it stops at the first clash and nothing happens. -/
theorem Follows.commit (h : Follows base tx s) :
    (tx.commit s = (.ok (), { s with
        tracked := tx.ops.foldl (Tracked.change s.clock) s.tracked,
        executed := s.executed ++ tx.statements }) ∧
      ∀ v, ¬Clashes s.tracked.ledger tx.ops v) ∨
    ∃ before v name after, tx.ops = before ++ .record v name :: after ∧
      s.tracked.ledger.contains v = true ∧ first? v before = none ∧
      (∀ w, ¬Clashes s.tracked.ledger before w) ∧
      tx.commit s = (.error (.duplicateVersion v), s) := by
  -- the changes can be made on the table of the start, so only a version added since is in the way
  obtain ⟨b, hb, -⟩ := h.repeats s.clock
  have hsettles : s.tracked.Settles tx.table s.clock [] tx.ops :=
    Tracked.settles_of_applyAll hb h.created (by simp)
  rcases hsettles with
    ⟨tracked, happly, hno⟩ | ⟨before, v, name, after, hops, -, hcontains, hfirst, hno, happly⟩
  · refine .inl ⟨?_, fun v => hno v List.not_mem_nil⟩
    rw [← Tracked.applyAll_eq_ok happly]
    simp only [Transaction.commit, happly]
  · refine .inr ⟨before, v, name, after, hops, hcontains, hfirst,
        fun w => hno w List.not_mem_nil, ?_⟩
    simp only [Transaction.commit, happly]

/-- A record of a recorded version that is its version's first change is a clash. -/
theorem clashes_of_first {l : Ledger} {ops before after : List TrackingOp} {v : Int64}
    {name : String} (hops : ops = before ++ .record v name :: after)
    (hcontains : l.contains v = true) (hfirst : first? v before = none) : Clashes l ops v := by
  refine ⟨hcontains, name, ?_⟩
  unfold first? at hfirst ⊢
  rw [hops, List.find?_append, hfirst, Option.none_or]
  exact TrackingOp.first?_cons_of_eq rfl

/-- **A commit is all or nothing, and fails exactly on a clash.**  Let a transaction be opened on any
store and run any statements, while any statements are run and any versions seeded outside it.  A
commit after that fails if and only if there is a version that is recorded in the store and whose
first successful change in the transaction was to record it.  The error is then the duplicate of the
earliest such record, and the store is as it was before the commit.  If the commit succeeds, the
successful changes of the transaction have been made in order on the table as it was before the
commit, and its other successful statements have been added to the log in order.  And up to the
commit, or with a rollback or a drop in its place, the store is as if there had been no transaction,
but for what has been reported. -/
theorem commit_fails_iff_clash (t : TrackingTable) (start : Store) (history : List Happening) :
    let r := (Transaction.start t start).during start history
    let changes := r.1.filterMap (Answered.change? t)
    let others := r.1.filterMap (Answered.other? t)
    let tx := r.2.1
    let s := r.2.2
    ((tx.commit s).1 ≠ .ok () ↔ ∃ v, Clashes s.tracked.ledger changes v) ∧
    (match tx.commit s with
      | (.error e, s') => s' = s ∧
        ∃ before v name after, changes = before ++ .record v name :: after ∧
          e = .duplicateVersion v ∧ s.tracked.ledger.contains v = true ∧ first? v before = none ∧
          ∀ w, ¬Clashes s.tracked.ledger before w
      | (.ok (), s') => s' = { s with
          tracked := changes.foldl (Tracked.change s.clock) s.tracked,
          executed := s.executed ++ others }) ∧
    ∀ ended ∈ [s, tx.rollback s, tx.drop s], ended.unreported =
      ((history.filterMap Happening.outside?).foldl Store.undergo start).unreported := by
  intro r changes others tx s
  have hfollows : Follows start.tracked tx s :=
    Follows.during ⟨Transaction.repeats_start t start, id⟩ history
  obtain ⟨-, hops, hstatements⟩ := (Transaction.start t start).notes_during start history
  have hops : tx.ops = changes := hops
  have hstatements : tx.statements = others := hstatements
  have hcommit := hfollows.commit
  rw [hops, hstatements] at hcommit
  refine ⟨?_, ?_, ?_⟩
  · rcases hcommit with ⟨hr, hno⟩ | ⟨before, v, name, after, hsplit, hcontains, hfirst, -, hr⟩
    · rw [hr]
      exact ⟨fun h => absurd rfl h, fun ⟨v, hv⟩ => absurd hv (hno v)⟩
    · rw [hr]
      exact ⟨fun _ => ⟨v, clashes_of_first hsplit hcontains hfirst⟩, fun _ h => by cases h⟩
  · rcases hcommit with ⟨hr, -⟩ | ⟨before, v, name, after, hsplit, hcontains, hfirst, hno, hr⟩
    · rw [hr]
    · rw [hr]
      exact ⟨rfl, before, v, name, after, hsplit, rfl, hcontains, hfirst, hno⟩
  · have hstore := store_during (Transaction.start t start) start history
    simp only [List.forall_mem_cons]
    exact ⟨hstore, hstore, hstore, List.forall_mem_nil _⟩

/-- Versions 5 and 6 are recorded in a transaction, and before it is committed 6 is recorded
outside. -/
example :
    let t : TrackingTable := .standard
    let start : Store :=
      { clock := ⟨⟨2024, 1, 1⟩, 0, 0, 0, 0⟩, tracked := { created := true } }
    let r := (Transaction.start t start).during start
      [.inside (t.record 5 "a"), .inside (t.record 6 "b"), .outside (.execute t (t.record 6 "c"))]
    (r.2.1.commit r.2.2).1 = .error (.duplicateVersion 6) ∧
      (r.2.1.commit r.2.2).2.versions = [6] := by
  decide +kernel

end Transaction

end SchemaKit
