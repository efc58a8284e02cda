import SchemaKit.Proofs.Moments

/-!
# Undisturbed transactions

Statements can be run one by one on a store, or in a transaction that is then committed.  If nothing
else happens in between, it makes no difference but for the moments at which records are stamped.
`Beside` is what holds of the two runs all along: the table that the transaction sees is the store's
own in the other run, and what it has buffered is what has been logged there.
-/

namespace SchemaKit

/-- Runs statements outside any transaction, each at a moment of its own. -/
def Store.executeEach (t : TrackingTable) (s : Store) :
    List (Timestamp × Statement) → List (Except StoreError (List Row)) × Store
  | [] => ([], s)
  | (now, q) :: rest =>
    let (answer, s) := { s with clock := now }.execute t q
    let (answers, s) := s.executeEach t rest
    (answer :: answers, s)

/-- Runs statements in a transaction, each at a moment of its own, whatever comes of those before. -/
def Transaction.executeEach (tx : Transaction) (s : Store) :
    List (Timestamp × Statement) → List (Except StoreError (List Row)) × Transaction × Store
  | [] => ([], tx, s)
  | (now, q) :: rest =>
    let (answer, tx, s) := tx.execute { s with clock := now } q
    let (answers, tx, s) := tx.executeEach s rest
    (answer :: answers, tx, s)

/-- Two stamps are the same, or each was made in its own run. -/
def SameUnlessMade (outside inside : List (Timestamp × Statement)) (a b : Timestamp) : Prop :=
  a = b ∨ a ∈ outside.map Prod.fst ∧ b ∈ inside.map Prod.fst

/-- The moments of two runs of the same statements are related as their stamps are to be. -/
theorem forall₂_of_same_statements {outside inside : List (Timestamp × Statement)}
    (h : outside.map Prod.snd = inside.map Prod.snd) :
    List.Forall₂ (fun x y => SameUnlessMade outside inside x.1 y.1 ∧ x.2 = y.2) outside inside := by
  rw [← List.forall₂_eq_eq_eq, List.forall₂_map_left_iff, List.forall₂_map_right_iff] at h
  rw [List.forall₂_iff_get] at h ⊢
  obtain ⟨hlength, hsame⟩ := h
  refine ⟨hlength, fun k hk hk' => ⟨.inr ⟨?_, ?_⟩, hsame k hk hk'⟩⟩
  · exact List.mem_map_of_mem (List.get_mem _ _)
  · exact List.mem_map_of_mem (List.get_mem _ _)

/-- How two runs from one store `s` stand beside each other: `direct` is the store of the run outside
any transaction, `opened` the store on which the transaction `tx` of the other run is open. -/
structure Beside (r : Timestamp → Timestamp → Prop) (t : TrackingTable) (s direct : Store)
    (tx : Transaction) (opened : Store) : Prop where
  table : tx.table = t
  outside : ∃ clock tracked executed journal, direct = { s with clock, tracked, executed, journal }
  inside : ∃ clock journal, opened = { s with clock, journal }
  logged : direct.executed = s.executed ++ tx.statements
  alike : direct.tracked.Alike r tx.shadow
  repeats : tx.Repeats s.tracked

namespace Beside

variable {r : Timestamp → Timestamp → Prop} {t : TrackingTable} {s direct opened : Store}
  {tx : Transaction} {now now' : Timestamp}

theorem start (hr : ∀ moment, r moment moment) (t : TrackingTable) (s : Store) :
    Beside r t s s (.start t s) s :=
  ⟨rfl, ⟨_, _, _, _, rfl⟩, ⟨_, _, rfl⟩, (List.append_nil _).symm, .refl hr s.tracked,
    Transaction.repeats_start t s⟩

theorem wait (h : Beside r t s direct tx opened) (now now' : Timestamp) :
    Beside r t s { direct with clock := now } tx { opened with clock := now' } := by
  obtain ⟨htable, ⟨_, _, _, _, rfl⟩, ⟨_, _, rfl⟩, hlogged, halike, hrepeats⟩ := h
  exact ⟨htable, ⟨_, _, _, _, rfl⟩, ⟨_, _, rfl⟩, hlogged, halike, hrepeats⟩

/-- **One statement**, run in both ways at related moments: the answers are alike, and so is what is
left. -/
theorem execute (h : Beside r t s direct tx opened) (hr : r direct.clock opened.clock)
    (q : Statement) :
    AnswersAlike r (direct.execute t q).1 (tx.execute opened q).1 ∧
      Beside r t s (direct.execute t q).2 (tx.execute opened q).2.1 (tx.execute opened q).2.2 := by
  have hrepeats := h.repeats.execute opened q
  obtain ⟨rfl, ⟨clock, tracked, executed, journal, hdirect⟩, ⟨clock', journal', hopened⟩, hlogged,
    halike, -⟩ := h
  -- both runs ask the same markers what the statement is
  have hout : direct.classify tx.table q = s.classify tx.table q := by rw [hdirect]; rfl
  have hin : opened.classify tx.table q = s.classify tx.table q := by rw [hopened]; rfl
  cases hc : s.classify tx.table q with
  | error e =>
    rw [hc] at hout hin
    rw [Transaction.execute_of_refused hin] at hrepeats ⊢
    rw [Store.execute_of_refused hout]
    exact ⟨.same _, rfl, ⟨_, _, _, _, hdirect⟩, ⟨_, _, hopened⟩, hlogged, halike, hrepeats⟩
  | ok op? =>
    rw [hc] at hout hin
    cases op? with
    | none =>
      have hresponse : direct.response q.sql = opened.response q.sql := by
        rw [hdirect, hopened]
        rfl
      rw [Transaction.execute_of_other hin] at hrepeats ⊢
      rw [Store.execute_of_other hout, hresponse]
      refine ⟨.same _, rfl, ?_, ?_, ?_, halike, hrepeats⟩
      · rw [hdirect]
        exact ⟨_, _, _, _, rfl⟩
      · rw [hopened]
        exact ⟨_, _, rfl⟩
      · simp only [hlogged, List.append_assoc]
    | some op =>
      rcases halike.apply (t := tx.table) hr op with
        ⟨e, ha, ha'⟩ | ⟨rows, rows', tracked', shadow, ha, ha', hrows, hlike⟩
      · rw [Transaction.execute_of_op_error hin ha'] at hrepeats ⊢
        rw [Store.execute_of_op_error hout ha]
        exact ⟨.same _, rfl, ⟨_, _, _, _, hdirect⟩, ⟨_, _, hopened⟩, hlogged, halike, hrepeats⟩
      · rw [Transaction.execute_of_op_ok hin ha'] at hrepeats ⊢
        rw [Store.execute_of_op_ok hout ha]
        refine ⟨hrows, rfl, ?_, ⟨_, _, hopened⟩, hlogged, hlike, hrepeats⟩
        rw [hdirect]
        exact ⟨_, _, _, _, rfl⟩

/-- **A list of statements**, run in both ways. -/
theorem executeEach {outside inside : List (Timestamp × Statement)}
    (h : Beside r t s direct tx opened)
    (hsteps : List.Forall₂ (fun x y => r x.1 y.1 ∧ x.2 = y.2) outside inside) :
    List.Forall₂ (AnswersAlike r) (direct.executeEach t outside).1
        (tx.executeEach opened inside).1 ∧
      Beside r t s (direct.executeEach t outside).2 (tx.executeEach opened inside).2.1
        (tx.executeEach opened inside).2.2 := by
  induction hsteps generalizing direct tx opened with
  | nil => exact ⟨.nil, h⟩
  | @cons x y outside inside hxy _ ih =>
    obtain ⟨now, q⟩ := x
    obtain ⟨now', q'⟩ := y
    obtain ⟨hr, rfl⟩ := hxy
    obtain ⟨hanswer, hstep⟩ := (h.wait now now').execute hr q
    obtain ⟨hanswers, hrest⟩ := ih hstep
    exact ⟨.cons hanswer hanswers, hrest⟩

/-- **At the end** the commit succeeds, and leaves the table and the log of the other run. -/
theorem commit (h : Beside r t s direct tx opened) :
    ∃ tracked, tx.commit opened = (.ok (), { opened with tracked, executed := direct.executed }) ∧
      tracked.created = direct.tracked.created ∧
      tracked.ledger.entries = direct.tracked.ledger.entries := by
  obtain ⟨rfl, -, ⟨clock, journal, rfl⟩, hlogged, halike, hrepeats⟩ := h
  obtain ⟨tracked, happly, hlike⟩ := hrepeats clock
  refine ⟨tracked, ?_, hlike.created.trans halike.created.symm,
    hlike.ledger.entries.trans halike.ledger.entries.symm⟩
  simp only [Transaction.commit, happly, hlogged]

end Beside

/-- **An undisturbed transaction equals direct execution.**  Let the same statements be run on a
store with any records, log, failure markers and canned answers, once each on its own, and once in a
transaction that is opened before the first, goes on after refusals and is committed after the last,
with nothing else in between.  Then each statement gets the same answer in both runs, but for stamps
that the runs themselves have made; the commit succeeds; and in the end there is the same table with
the same rows and the same log. -/
theorem commit_eq_execute (t : TrackingTable) (s : Store)
    (outside inside : List (Timestamp × Statement)) (now : Timestamp)
    (h : outside.map Prod.snd = inside.map Prod.snd) :
    let direct := s.executeEach t outside
    let within := (Transaction.start t s).executeEach s inside
    let committed := within.2.1.commit { within.2.2 with clock := now }
    List.Forall₂ (AnswersAlike (SameUnlessMade outside inside)) direct.1 within.1 ∧
      committed.1 = .ok () ∧
      committed.2.tracked.created = direct.2.tracked.created ∧
      committed.2.tracked.ledger.entries = direct.2.tracked.ledger.entries ∧
      committed.2.executed = direct.2.executed := by
  have hsteps := forall₂_of_same_statements h
  obtain ⟨hanswers, hend⟩ := (Beside.start (fun _ => .inl rfl) t s).executeEach hsteps
  obtain ⟨tracked, hcommit, hcreated, hentries⟩ := (hend.wait _ now).commit
  simp only [hcommit]
  exact ⟨hanswers, trivial, hcreated, hentries, trivial⟩

/-- The same of statements of all kinds: the table is created, a version is recorded, recorded again
in vain and forgotten, a record is left without its values, a failure marker and a canned answer
apply, and the table is read. -/
theorem commit_eq_execute_of_all_kinds :
    let t : TrackingTable := .standard
    let moment (hour : Nat) : Timestamp := ⟨⟨2024, 1, 1⟩, hour, 0, 0, 0⟩
    let s : Store :=
      { clock := moment 0, failures := ["DROP"],
        responses := [("users", [Row.ofList [("id", .int 1)]])] }
    let qs : List Statement :=
      [t.create, t.record 1 "a", t.record 2 "b", t.record 2 "c", ⟨t.insertText, []⟩, t.forget 1,
        ⟨"DROP TABLE users", []⟩, ⟨"SELECT id FROM users", []⟩, t.select]
    let outside := qs.map fun q => (moment 1, q)
    let inside := qs.map fun q => (moment 2, q)
    outside.map Prod.snd = inside.map Prod.snd ∧
    let direct := s.executeEach t outside
    let within := (Transaction.start t s).executeEach s inside
    let committed := within.2.1.commit { within.2.2 with clock := moment 3 }
    List.Forall₂ (AnswersAlike (SameUnlessMade outside inside)) direct.1 within.1 ∧
      committed.1 = .ok () ∧
      committed.2.tracked.created = direct.2.tracked.created ∧
      committed.2.tracked.ledger.entries = direct.2.tracked.ledger.entries ∧
      committed.2.executed = direct.2.executed := by
  intro t moment s qs outside inside
  have hsame : outside.map Prod.snd = inside.map Prod.snd := by
    simp only [outside, inside, List.map_map, Function.comp_def]
  refine ⟨hsame, ?_⟩
  -- the values are not needed any more, and comparing the runs would evaluate them
  clear_value t s outside inside
  exact commit_eq_execute t s outside inside (moment 3) hsame

end SchemaKit
