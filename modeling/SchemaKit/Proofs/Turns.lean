import SchemaKit.Store.Crowd

/-!
# Taking turns

Turns are a finer account of what `Job.run` does at one go: a caller who alone has turns, while no
transaction is open, comes to the same end (`Crowd.turns_outside`).  Only the holder of the lock is
inside a transaction (`Crowd.Locked`), and by turns of its own the holder comes out of it.  Hence
callers never block each other for good (`Crowd.Locked.exists_all_done`).
-/

namespace SchemaKit

/-- A caller who is in a transaction. -/
def Caller.IsInside {α : Type} : Caller α → Prop
  | outside _ => False
  | inside .. => True

/-- Ends a piece of work that has been done in a transaction: its changes are made if it has
succeeded. -/
def Transaction.finish (tx : Transaction) (s : Store) :
    Except StoreError Unit → Except StoreError Unit × Store
  | .ok () => tx.commit s
  | .error e => (.error e, tx.drop s)

theorem Work.transact_eq_finish (t : TrackingTable) (s : Store)
    (w : Work (Except StoreError Unit)) :
    w.transact t s =
      (w.run (.start t s) s).2.1.finish (w.run (.start t s) s).2.2 (w.run (.start t s) s).1 := by
  unfold transact
  rcases w.run (.start t s) s with ⟨_ | _, tx, s'⟩ <;> rfl

namespace Crowd

variable {ι α : Type} [DecidableEq ι] {t : TrackingTable} {c c' c'' : Crowd ι α} {i : ι}

@[simp] theorem after_nil : c.after t [] = c := rfl

@[simp] theorem after_cons (b : Beat ι) (rest : List (Beat ι)) :
    c.after t (b :: rest) = (c.beat t b).after t rest := rfl

theorem after_append (before rest : List (Beat ι)) :
    c.after t (before ++ rest) = (c.after t before).after t rest :=
  List.foldl_append

/-! ## One caller at a time -/

/-- By turns of one caller alone `c` becomes `c'`: the caller stands elsewhere, the store has changed,
and no transaction is open. -/
structure Goes (t : TrackingTable) (i : ι) (c c' : Crowd ι α) (caller : Caller α) (s : Store) :
    Prop where
  turns : ∃ n, c' = c.after t (List.replicate n (.turn i))
  store : c'.store = s
  callers : c'.callers = Function.update c.callers i caller
  holder : c'.holder = none

/-- A first turn, after which nobody but the caller who had it stands elsewhere. -/
theorem goes_of_turn {caller caller' : Caller α} {s : Store} (hturn : c.turn t i = c')
    (hcallers : c'.callers = Function.update c.callers i caller')
    (h : ∃ c'', Goes t i c' c'' caller s) : ∃ c'', Goes t i c c'' caller s := by
  obtain ⟨c'', ⟨n, hn⟩, hs, hc, hfree⟩ := h
  refine ⟨c'', ⟨n + 1, ?_⟩, hs, ?_, hfree⟩
  · rw [List.replicate_succ, after_cons, beat, hturn]
    exact hn
  · rw [hc, hcallers, Function.update_idem]

theorem Goes.trans {caller caller' : Caller α} {s s' : Store} (h : Goes t i c c' caller s)
    (h' : Goes t i c' c'' caller' s') : Goes t i c c'' caller' s' := by
  obtain ⟨n, hn⟩ := h.turns
  obtain ⟨n', hn'⟩ := h'.turns
  refine ⟨⟨n + n', ?_⟩, h'.store, ?_, h'.holder⟩
  · rw [← List.replicate_append_replicate, after_append, ← hn]
    exact hn'
  · rw [h'.callers, h.callers, Function.update_idem]

/-- **A transaction comes to its end** by turns of its caller. -/
theorem turns_inside {tx : Transaction} {w : Work (Except StoreError Unit)}
    {next : Except StoreError Unit → Job α} (hc : c.callers i = .inside tx w next) :
    let r := w.run tx c.store
    let ended := r.2.1.finish r.2.2 r.1
    ∃ c', Goes t i c c' (.outside (next ended.1)) ended.2 := by
  induction w generalizing tx c with
  | done r =>
    -- the last turn commits or drops
    have hlast : ∃ committed, c.turn t i =
        { c.move i (.outside (next (tx.finish c.store r).1)) (tx.finish c.store r).2 none with
          committed } := by
      cases r with
      | error e => exact ⟨c.committed, turn_drop hc⟩
      | ok u =>
        unfold Transaction.finish
        rcases hcommit : tx.commit c.store with ⟨e | _, s⟩
        · exact ⟨c.committed, turn_commit_error hc hcommit⟩
        · exact ⟨_, turn_commit_ok hc hcommit⟩
    obtain ⟨committed, hlast⟩ := hlast
    exact ⟨c.turn t i, ⟨1, rfl⟩, by rw [hlast]; rfl, by rw [hlast]; rfl, by rw [hlast]; rfl⟩
  | report e w ih => exact goes_of_turn (turn_inside_report hc) rfl (ih (callers_move_self ..))
  | execute q w ih => exact goes_of_turn (turn_inside_execute hc) rfl (ih _ (callers_move_self ..))

/-- **A caller alone**: if one caller has all the turns, its job ends as if it were done at one
go. -/
theorem turns_outside {j : Job α} (hc : c.callers i = .outside j) (hfree : c.holder = none) :
    ∃ c', Goes t i c c' (.outside (.done (j.run t c.store).1)) (j.run t c.store).2 := by
  induction j generalizing c with
  | done a => exact ⟨c, ⟨0, rfl⟩, rfl, by rw [Job.run, ← hc, Function.update_eq_self], hfree⟩
  | report e next ih =>
    exact goes_of_turn (turn_report hc) rfl (ih (callers_move_self ..) hfree)
  | execute q next ih =>
    exact goes_of_turn (turn_execute hc) rfl (ih _ (callers_move_self ..) hfree)
  | transact w next ih =>
    have hturn := turn_transact_of_free (t := t) hc hfree
    -- the lock is free, so the caller goes in, and it comes out again by turns of its own
    have hinside : ∃ c', Goes t i (c.turn t i) c' (.outside (next (w.transact t c.store).1))
        (w.transact t c.store).2 := by
      rw [Work.transact_eq_finish, hturn]
      exact turns_inside (callers_move_self ..)
    obtain ⟨c', hw⟩ := goes_of_turn rfl (congrArg callers hturn) hinside
    obtain ⟨c'', h⟩ := ih (w.transact t c.store).1 (c := c')
      (by rw [hw.callers, Function.update_self]) hw.holder
    rw [hw.store] at h
    exact ⟨c'', hw.trans h⟩

/-- A single caller on a store, after turns. -/
def alone (t : TrackingTable) (s : Store) (j : Job α) (turns : Nat) : Crowd Unit α :=
  (start s fun _ => j).after t (List.replicate turns (.turn ()))

theorem exists_alone (t : TrackingTable) (s : Store) (j : Job α) :
    ∃ turns, (alone t s j turns).callers () = .outside (.done (j.run t s).1) ∧
      (alone t s j turns).store = (j.run t s).2 ∧ (alone t s j turns).holder = none := by
  obtain ⟨c, ⟨turns, rfl⟩, hstore, hcallers, hholder⟩ :=
    turns_outside (t := t) (c := start s fun _ => j) (i := ()) rfl rfl
  refine ⟨turns, ?_, hstore, hholder⟩
  rw [alone, hcallers, Function.update_self]
  rfl

/-! ## The lock -/

/-- The lock is held by the caller who is inside a transaction. -/
def Locked (c : Crowd ι α) : Prop :=
  ∀ i, (c.callers i).IsInside ↔ c.holder = some i

omit [DecidableEq ι] in
theorem locked_start (s : Store) (jobs : ι → Job α) : (start s jobs).Locked :=
  fun _ => ⟨False.elim, fun h => by cases h⟩

theorem Locked.move (h : c.Locked) {caller : Caller α} {s : Store} {holder : Option ι}
    (hi : caller.IsInside ↔ holder = some i)
    (hj : ∀ j, j ≠ i → (holder = some j ↔ c.holder = some j)) :
    (c.move i caller s holder).Locked := by
  intro j
  by_cases hji : j = i
  · subst hji
    rw [callers_move_self, holder_move]
    exact hi
  · rw [callers_move_of_ne _ _ _ _ _ hji, holder_move]
    exact (h j).trans (hj j hji).symm

/-- **One turn**: a transaction is opened only while none is, and ended by its own caller. -/
theorem Locked.turn (h : c.Locked) (i : ι) : (c.turn t i).Locked := by
  have hmine := h i
  cases hc : c.callers i with
  | outside j =>
    rw [hc] at hmine
    cases j with
    | done a => rwa [turn_done hc]
    | report e next =>
      rw [turn_report hc]
      exact h.move hmine fun _ _ => Iff.rfl
    | execute q next =>
      rw [turn_execute hc]
      exact h.move hmine fun _ _ => Iff.rfl
    | transact w next =>
      by_cases hfree : c.holder = none
      · rw [turn_transact_of_free hc hfree]
        refine h.move ⟨fun _ => rfl, fun _ => trivial⟩ fun j hj => ?_
        rw [hfree]
        exact ⟨fun e => absurd (Option.some.inj e).symm hj, fun e => by cases e⟩
      · rwa [turn_transact_of_held hc hfree]
  | inside tx w next =>
    rw [hc] at hmine
    -- whoever is inside holds the lock and gives it back on coming out
    have hended : ∀ (j : Job α) s, (c.move i (.outside j) s none).Locked := fun j s => by
      refine h.move ⟨False.elim, fun e => by cases e⟩ fun k hk => ?_
      rw [hmine.mp trivial]
      exact ⟨fun e => (by cases e), fun e => absurd (Option.some.inj e).symm hk⟩
    cases w with
    | report e w =>
      rw [turn_inside_report hc]
      exact h.move hmine fun _ _ => Iff.rfl
    | execute q w =>
      rw [turn_inside_execute hc]
      exact h.move hmine fun _ _ => Iff.rfl
    | done r =>
      cases r with
      | error e =>
        rw [turn_drop hc]
        exact hended _ _
      | ok u =>
        rcases hcommit : tx.commit c.store with ⟨e | _, s⟩
        · rw [turn_commit_error hc hcommit]
          exact hended _ s
        · rw [turn_commit_ok hc hcommit]
          exact hended _ s

/-- **A whole schedule**: at any moment nobody but the holder of the lock is inside a transaction. -/
theorem Locked.after (h : c.Locked) (schedule : List (Beat ι)) : (c.after t schedule).Locked := by
  induction schedule generalizing c with
  | nil => exact h
  | cons b rest ih =>
    cases b with
    | turn i => exact ih (h.turn i)
    | wait now => exact ih h

/-- By turns of the holder the lock comes free. -/
theorem Locked.exists_free (h : c.Locked) :
    ∃ schedule, (c.after t schedule).holder = none := by
  cases hholder : c.holder with
  | none => exact ⟨[], hholder⟩
  | some i =>
    have hi := (h i).mpr hholder
    cases hc : c.callers i with
    | outside j =>
      rw [hc] at hi
      cases hi
    | inside tx w next =>
      obtain ⟨c', ⟨n, hn⟩, -, -, hfree⟩ := turns_inside (t := t) hc
      exact ⟨List.replicate n (.turn i), hn ▸ hfree⟩

/-- While the lock is free, callers can end their jobs one after the other. -/
theorem Locked.exists_done (h : c.Locked) (hfree : c.holder = none) (is : List ι) :
    ∃ schedule,
      (∀ i, (c.callers i).result?.isSome → ((c.after t schedule).callers i).result?.isSome) ∧
      ∀ i ∈ is, ((c.after t schedule).callers i).result?.isSome := by
  induction is generalizing c with
  | nil => exact ⟨[], fun _ hi => hi, List.forall_mem_nil _⟩
  | cons i rest ih =>
    cases hc : c.callers i with
    | inside tx w next =>
      have hi := h i
      rw [hc, hfree] at hi
      cases hi.mp trivial
    | outside j =>
      obtain ⟨c', ⟨n, rfl⟩, -, hcallers, hfree'⟩ := turns_outside (t := t) hc hfree
      obtain ⟨schedule, hkept, hdone⟩ := ih (h.after _) hfree'
      have hi : ((c.after t (List.replicate n (.turn i))).callers i).result?.isSome := by
        rw [hcallers, Function.update_self]
        rfl
      -- whoever has come to an end stays there while others have turns
      refine ⟨List.replicate n (.turn i) ++ schedule, fun k hk => ?_, ?_⟩
      · rw [after_append]
        refine hkept k ?_
        by_cases hki : k = i
        · rw [hki]
          exact hi
        · rw [hcallers, Function.update_of_ne hki]
          exact hk
      · rw [after_append]
        exact List.forall_mem_cons.mpr ⟨hkept i hi, hdone⟩

/-- **No deadlock**: callers can still all come to the end of their jobs. -/
theorem Locked.exists_all_done (h : c.Locked) (is : List ι) :
    ∃ rest, ∀ i ∈ is, ((c.after t rest).callers i).result?.isSome := by
  obtain ⟨first, hfree⟩ := h.exists_free (t := t)
  obtain ⟨second, -, hdone⟩ := (h.after first).exists_done (t := t) hfree is
  refine ⟨first ++ second, ?_⟩
  rw [after_append]
  exact hdone

end Crowd

end SchemaKit
