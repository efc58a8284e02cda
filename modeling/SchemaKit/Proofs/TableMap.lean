import SchemaKit.Migration.Migrator
import SchemaKit.Proofs.Acceptance
import SchemaKit.Proofs.Conflicts
import SchemaKit.Proofs.Moments

/-!
# Tracking tables as maps

To those who use it, a tracking table is a map from versions to names.  The map is written in
statements and read back from rows, but none of this shows: whatever is asked of a table, it answers
as the map does (`Migrator.Keeps.useEach`).  `Ledger.Lists` ties a ledger to the map it lists,
and `Transaction.Sees` an open transaction to the map as it has changed it so far.
-/

namespace SchemaKit

/-- A map from versions to names. -/
abbrev NameMap := Version → Option String

/-- A change that is asked for in a transaction. -/
inductive Change where
  | record (version : Version) (name : String)
  | remove (version : Version)

/-- What is done with a tracking table.  The changes of a transaction are asked for one after the
other, each at a moment of its own and whatever comes of those before, and then committed. -/
inductive Use where
  | ensure
  | transact (changes : List (Timestamp × Change)) (committed : Timestamp)
  | read

inductive Outcome where
  | ensured (r : Except MigrationError Unit)
  | changed (answers : List (Except StoreError Unit)) (r : Except StoreError Unit)
  | listed (r : Except MigrationError (List Applied))

/-! ## What a map does -/

namespace NameMap

/-- A change of a map: what it answers, and the map after it.  A version that is there cannot be
recorded again, and one that is not there can be removed all the same. -/
def change (names : NameMap) : Change → Except StoreError Unit × NameMap
  | .record version name =>
    match names version with
    | some _ => (.error (.duplicateVersion version), names)
    | none => (.ok (), Function.update names version (some name))
  | .remove version => (.ok (), Function.update names version none)

/-- Changes of a map one after the other. -/
def changeEach (names : NameMap) : List Change → List (Except StoreError Unit) × NameMap
  | [] => ([], names)
  | c :: rest =>
    let (answer, names) := names.change c
    let (answers, names) := names.changeEach rest
    (answer :: answers, names)

/-- Records list a map: each version that is there stands once, under its name, and the versions
ascend strictly. -/
structure ListedBy (names : NameMap) (l : List Applied) : Prop where
  ascending : l.Pairwise fun a b => a.version < b.version
  mem_iff : ∀ version name, (version, name) ∈ l.map Applied.entry ↔ names version = some name

/-- What comes of a use of a map, and the map after it: nothing fails but a record, a commit makes
all changes, and reading lists the map. -/
inductive Step : NameMap → Use → Outcome → NameMap → Prop
  | ensure (names : NameMap) : Step names .ensure (.ensured (.ok ())) names
  | transact (names : NameMap) (changes : List (Timestamp × Change)) (committed : Timestamp) :
    Step names (.transact changes committed)
      (.changed (names.changeEach (changes.map Prod.snd)).1 (.ok ()))
      (names.changeEach (changes.map Prod.snd)).2
  | read {names : NameMap} {l : List Applied} (h : names.ListedBy l) :
    Step names .read (.listed (.ok l)) names

/-- What comes of uses of a map one after the other. -/
inductive Run : NameMap → List Use → List Outcome → Prop
  | nil (names : NameMap) : Run names [] []
  | cons {names names' : NameMap} {u : Use} {o : Outcome} {us : List Use} {os : List Outcome}
    (h : Step names u o names') (hrest : Run names' us os) : Run names (u :: us) (o :: os)

end NameMap

/-! ## What a table does -/

namespace Migrator

open Job (attempt)

variable (m : Migrator)

/-- What asks for a change in a transaction. -/
def changeWork : Change → ExceptT StoreError Work Unit
  | .record version name => m.recordVersion version name
  | .remove version => m.forgetVersion version

/-- Asks for changes in a transaction, each at a moment of its own, whatever comes of those before. -/
def changeEach (tx : Transaction) (s : Store) :
    List (Timestamp × Change) → List (Except StoreError Unit) × Transaction × Store
  | [] => ([], tx, s)
  | (now, c) :: rest =>
    let (answer, tx, s) := Work.attempt tx { s with clock := now } (m.changeWork c)
    let (answers, tx, s) := changeEach tx s rest
    (answer :: answers, tx, s)

/-- Uses the tracking table of a migrator in a store that understands the same table. -/
def use (s : Store) : Use → Outcome × Store
  | .ensure =>
    let (r, s) := attempt m.table s m.ensure
    (.ensured r, s)
  | .transact changes committed =>
    let (answers, tx, s) := m.changeEach (.start m.table s) s changes
    let (r, s) := tx.commit { s with clock := committed }
    (.changed answers r, s)
  | .read =>
    let (r, s) := attempt m.table s m.applied
    (.listed r, s)

def useEach (s : Store) : List Use → List Outcome × Store
  | [] => ([], s)
  | u :: rest =>
    let (o, s) := m.use s u
    let (os, s) := useEach s rest
    (o :: os, s)

end Migrator

/-! ## Ledgers that list a map -/

namespace Ledger

variable {l l' : Ledger} {names : NameMap} {a : Applied} {v : Version}

/-- What a ledger says is what a map says. -/
def Lists (l : Ledger) (names : NameMap) : Prop :=
  ∀ version name, (version, name) ∈ l.entries ↔ names version = some name

theorem lists_empty : empty.Lists fun _ => none := by
  intro version name
  simp [entries]

theorem Lists.listedBy (h : l.Lists names) : names.ListedBy l.records :=
  ⟨l.sorted, h⟩

theorem Lists.of_entries (h : l.Lists names) (heq : l'.entries = l.entries) : l'.Lists names := by
  intro version name
  rw [heq]
  exact h version name

/-- A version is recorded if the map has it. -/
theorem Lists.contains_eq (h : l.Lists names) (v : Version) :
    l.contains v = (names v).isSome := by
  rw [Bool.eq_iff_iff, contains_iff, ← l.map_fst_entries, Option.isSome_iff_exists, List.mem_map]
  constructor
  · rintro ⟨⟨w, name⟩, he, rfl⟩
    exact ⟨name, (h w name).mp he⟩
  · rintro ⟨name, hname⟩
    exact ⟨(v, name), (h v name).mpr hname, rfl⟩

/-- **Recording** a new version adds it to the map. -/
theorem Lists.put (h : l.Lists names) (hnew : names a.version = none) :
    (l.put a).Lists (Function.update names a.version (some a.name)) := by
  have hcontains : l.contains a.version = false := by rw [h.contains_eq, hnew]; rfl
  have hperm : (l.put a).entries.Perm (l.entries ++ [a.entry]) := by
    have hrecords := (records_put_perm hcontains).map Applied.entry
    rwa [List.map_append] at hrecords
  intro version name
  rw [hperm.mem_iff, List.mem_append, List.mem_singleton, h]
  by_cases hv : version = a.version
  · subst hv
    rw [Function.update_self, hnew]
    simp [Applied.entry, eq_comm]
  · rw [Function.update_of_ne hv]
    simp [Applied.entry, hv]

/-- **Removing** a version takes it out of the map, if it is there. -/
theorem Lists.erase (h : l.Lists names) (v : Version) :
    (l.erase v).Lists (Function.update names v none) := by
  have hmem : ∀ version name, (version, name) ∈ (l.erase v).entries ↔
      (version, name) ∈ l.entries ∧ version ≠ v := by
    intro version name
    simp only [entries, Ledger.erase, List.mem_map, List.mem_filter, decide_eq_true_eq,
      Applied.entry, Prod.mk.injEq]
    constructor
    · rintro ⟨a, ⟨ha, hne⟩, rfl, rfl⟩
      exact ⟨⟨a, ha, rfl, rfl⟩, hne⟩
    · rintro ⟨⟨a, ha, rfl, rfl⟩, hne⟩
      exact ⟨a, ⟨ha, hne⟩, rfl, rfl⟩
  intro version name
  rw [hmem, h]
  by_cases hv : version = v
  · subst hv
    simp
  · rw [Function.update_of_ne hv]
    simp [hv]

end Ledger

/-! ## Changes -/

namespace Change

variable {t : TrackingTable} {s : Store} {names : NameMap}

def op : Change → TrackingOp
  | record version name => .record version name
  | remove version => .remove version

def statement (t : TrackingTable) : Change → Statement
  | record version name => t.record version name
  | remove version => t.forget version

theorem ofStatement_statement (t : TrackingTable) (c : Change) :
    TrackingOp.ofStatement t (c.statement t) = .ok (some c.op) := by
  cases c with
  | record version name => exact TrackingOp.ofStatement_record t version name
  | remove version => exact TrackingOp.ofStatement_forget t version

/-- **A change of a table** that is there and lists a map is refused with the answer of the map, or it
is done and the table lists the map after it. -/
theorem apply_op (c : Change) {u : Tracked} (moment : Timestamp) (hcreated : u.created = true)
    (h : u.ledger.Lists names) :
    (∃ e, u.apply t moment c.op = .error e ∧ names.change c = (.error e, names)) ∨
    ∃ u', u.apply t moment c.op = .ok ([], u') ∧ (names.change c).1 = .ok () ∧
      u'.created = true ∧ u'.ledger.Lists (names.change c).2 := by
  cases c with
  | record version name =>
    -- a record of a version that is there is the only change that can be refused
    cases hv : names version with
    | some old =>
      refine .inl ⟨.duplicateVersion version, ?_, by simp only [NameMap.change, hv]⟩
      simp [op, Tracked.apply, hcreated, h.contains_eq, hv]
    | none =>
      refine .inr ⟨{ u with ledger := u.ledger.put ⟨version, name, moment⟩ }, ?_, ?_, hcreated, ?_⟩
      · simp [op, Tracked.apply, hcreated, h.contains_eq, hv]
      · simp only [NameMap.change, hv]
      · simp only [NameMap.change, hv]
        exact h.put hv
  | remove version =>
    refine .inr ⟨{ u with ledger := u.ledger.erase version }, ?_, rfl, hcreated, h.erase version⟩
    simp [op, Tracked.apply, hcreated]

end Change

/-! ## Transactions -/

namespace Transaction

/-- A transaction on a table sees a map: the table as the transaction sees it is there and lists the
map, and its changes can be made again on the table that it started from. -/
structure Sees (t : TrackingTable) (base : Tracked) (tx : Transaction) (names : NameMap) :
    Prop where
  table : tx.table = t
  created : tx.shadow.created = true
  ledger : tx.shadow.ledger.Lists names
  repeats : tx.Repeats base

variable {t : TrackingTable} {base : Tracked} {tx : Transaction} {names : NameMap} {s : Store}

/-- **One change** in a transaction is answered as the map answers it. -/
theorem Sees.execute (h : tx.Sees t base names) (hs : s.failures = []) (c : Change) :
    (tx.execute s (c.statement t)).1.map (fun _ => ()) = (names.change c).1 ∧
      (tx.execute s (c.statement t)).2.1.Sees t base (names.change c).2 := by
  have hrepeats := h.repeats.execute s (c.statement t)
  obtain ⟨rfl, hcreated, hledger, -⟩ := h
  have hclassify : s.classify tx.table (c.statement tx.table) = .ok (some c.op) := by
    rw [Store.classify_of_unmarked (Store.failure?_eq_none hs _), c.ofStatement_statement]
  rcases c.apply_op (t := tx.table) s.clock hcreated hledger with
    ⟨e, ha, he⟩ | ⟨u, ha, hok, hcreated', hledger'⟩
  · rw [execute_of_op_error hclassify ha] at hrepeats ⊢
    rw [he]
    exact ⟨rfl, rfl, hcreated, hledger, hrepeats⟩
  · rw [execute_of_op_ok hclassify ha] at hrepeats ⊢
    rw [hok]
    exact ⟨rfl, rfl, hcreated', hledger', hrepeats⟩

end Transaction

namespace Migrator

open Job (attempt)

variable {m : Migrator} {base : Tracked} {tx : Transaction} {names : NameMap} {s : Store}

/-- What asks for a change reports it and runs one statement. -/
theorem attempt_changeWork (m : Migrator) (tx : Transaction) (s : Store) (c : Change) :
    ∃ e, Work.attempt tx s (m.changeWork c) =
      let r := tx.execute (s.report e) (c.statement m.table)
      (r.1.map (fun _ => ()), r.2) := by
  -- both kinds of change are one report and one statement, whose rows are not looked at
  have hquery : ∀ (e : Event) (q : Statement),
      Work.attempt tx s (do Work.tell e; let _ ← Work.query q; pure ()) =
        let r := tx.execute (s.report e) q
        (r.1.map (fun _ => ()), r.2) := by
    intro e q
    rw [Work.attempt_bind, Work.attempt_tell]
    simp only
    rw [Work.attempt_bind, Work.attempt_query]
    rcases tx.execute (s.report e) q with ⟨_ | rows, tx', s'⟩ <;> rfl
  cases c with
  | record version name => exact ⟨_, hquery (.recording version m.table.name) _⟩
  | remove version => exact ⟨_, hquery (.removing version m.table.name) _⟩

/-- **Asking for a change** in a transaction is answered as the map answers it, and nothing of it
shows in the store but what is reported. -/
theorem changeWork_sees (h : tx.Sees m.table base names) (hs : s.failures = []) (c : Change) :
    let r := Work.attempt tx s (m.changeWork c)
    r.1 = (names.change c).1 ∧ r.2.1.Sees m.table base (names.change c).2 ∧
      ∃ journal, r.2.2 = { s with journal } := by
  obtain ⟨e, hwork⟩ := m.attempt_changeWork tx s c
  obtain ⟨hanswer, hsees⟩ := h.execute (s := s.report e) hs c
  obtain ⟨journal, hstore⟩ := tx.execute_store (s.report e) (c.statement m.table)
  rw [hwork]
  exact ⟨hanswer, hsees, journal, hstore⟩

/-- **Changes in a transaction**, one after the other. -/
theorem changeEach_sees (h : tx.Sees m.table base names) (hs : s.failures = [])
    (changes : List (Timestamp × Change)) :
    let r := m.changeEach tx s changes
    r.1 = (names.changeEach (changes.map Prod.snd)).1 ∧
      r.2.1.Sees m.table base (names.changeEach (changes.map Prod.snd)).2 ∧
      ∃ clock journal, r.2.2 = { s with clock, journal } := by
  induction changes generalizing tx s names with
  | nil => exact ⟨rfl, h, s.clock, s.journal, rfl⟩
  | cons x rest ih =>
    obtain ⟨now, c⟩ := x
    obtain ⟨hanswer, hsees, journal, hstore⟩ :=
      changeWork_sees (s := { s with clock := now }) h hs c
    simp only [changeEach, List.map_cons, NameMap.changeEach]
    rw [hanswer, hstore]
    obtain ⟨hanswers, hsees', clock', journal', hstore'⟩ :=
      ih hsees (s := { s with clock := now, journal }) hs
    exact ⟨congrArg _ hanswers, hsees', clock', journal', hstore'⟩

/-- A store without failure markers whose tracking table is there and lists a map. -/
structure Keeps (s : Store) (names : NameMap) : Prop where
  unmarked : s.failures = []
  created : s.tracked.created = true
  ledger : s.tracked.ledger.Lists names

theorem keeps_opened (hs : s.failures = []) (h : s.tracked.ledger.Lists names) :
    Keeps s.opened names :=
  ⟨hs, rfl, h⟩

theorem use_ensure (m : Migrator) (hs : s.failures = []) :
    m.use s .ensure = (.ensured (.ok ()), s.opened) := by
  simp only [use, m.attempt_ensure, Store.failure?_eq_none hs]

theorem use_read (m : Migrator) (hs : s.failures = []) :
    m.use s .read = (.listed (.ok s.tracked.ledger.records), s.opened) := by
  simp only [use, m.attempt_applied, Store.failure?_eq_none hs]

/-- **One use** of a table comes out as that of the map it lists. -/
theorem Keeps.use (h : Keeps s names) (u : Use) :
    ∃ names', names.Step u (m.use s u).1 names' ∧ Keeps (m.use s u).2 names' := by
  obtain ⟨hs, hcreated, hledger⟩ := h
  cases u with
  | ensure =>
    rw [m.use_ensure hs]
    exact ⟨names, .ensure names, keeps_opened hs hledger⟩
  | read =>
    rw [m.use_read hs]
    exact ⟨names, .read hledger.listedBy, keeps_opened hs hledger⟩
  | transact changes committed =>
    have hstart : (Transaction.start m.table s).Sees m.table s.tracked names :=
      ⟨rfl, hcreated, hledger, Transaction.repeats_start m.table s⟩
    obtain ⟨hanswers, hsees, clock, journal, hstore⟩ := changeEach_sees hstart hs changes
    refine ⟨(names.changeEach (changes.map Prod.snd)).2, ?_⟩
    -- the changes are made again on the table of the store, at the moment of the commit
    obtain ⟨tracked, happly, hlike⟩ := hsees.repeats committed
    have hcommit : (m.changeEach (.start m.table s) s changes).2.1.commit
        { s with clock := committed, journal } = (.ok (), { s with
          clock := committed, journal, tracked, executed := s.executed ++
            (m.changeEach (.start m.table s) s changes).2.1.statements }) := by
      simp only [Transaction.commit, happly]
    simp only [Migrator.use, hanswers, hstore, hcommit]
    refine ⟨.transact names changes committed, hs, ?_, ?_⟩
    · exact hlike.created.trans hsees.created
    · exact hsees.ledger.of_entries hlike.ledger.entries

/-- **Uses one after the other** come out as those of the map. -/
theorem Keeps.useEach (h : Keeps s names) (us : List Use) :
    names.Run us (m.useEach s us).1 := by
  induction us generalizing s names with
  | nil => exact .nil names
  | cons u rest ih =>
    obtain ⟨names', hstep, hkeeps⟩ := h.use (m := m) u
    exact .cons hstep (ih hkeeps)

/-- Once it has been seen to that the table is there, all that follows comes out as for the map. -/
theorem useEach_ensure (hs : s.failures = []) (h : s.tracked.ledger.Lists names) (us : List Use) :
    names.Run (.ensure :: us) (m.useEach s (.ensure :: us)).1 := by
  have hrest : names.Run us (m.useEach s.opened us).1 := (keeps_opened hs h).useEach us
  simp only [useEach, m.use_ensure hs]
  exact .cons (.ensure names) hrest

/-- **A tracking table is a map from versions to names.**  Let a table of any name be used by one
migrator in a new store that understands the same table: first it is seen to that the table is there,
and then come, in any order, more of the same, transactions that record and remove any versions under
any names, and readings.  Then everything comes out as it does for a map that is empty in the
beginning: no use fails; a record is refused if and only if the map has the version at that point,
and then as a duplicate; a removal never is, and does nothing if the version is not there; and a
reading lists the map as it then is, every version once, in strictly ascending order and under the
name that was recorded. -/
theorem table_answers_as_map (m : Migrator) (now : Timestamp) (us : List Use) :
    NameMap.Run (fun _ => none) (.ensure :: us) (m.useEach { clock := now } (.ensure :: us)).1 :=
  useEach_ensure rfl Ledger.lists_empty us

end Migrator

end SchemaKit
