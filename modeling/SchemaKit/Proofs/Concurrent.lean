import Mathlib.Data.List.Nodup
import Mathlib.Data.List.Pairwise
import SchemaKit.Proofs.Meanwhile
import SchemaKit.Proofs.Recording
import SchemaKit.Proofs.Turns

/-!
# Migrating side by side

Callers of `migrate` on one store decide what is pending by a reading that may be out of date when
they come to apply it.  Nevertheless no version is applied twice: the recorded versions are at any
moment those from before and those of the committed transactions (`Crowd.Accounts.versions`), and a
ledger holds a version only once.  What a caller reports is what its own transactions have recorded,
so the reports of different callers are disjoint, and together they are complete.  That all calls
can return is `Crowd.Locked.exists_all_done`.
-/

namespace SchemaKit

/-- The elements that have a part in them are at most as many as the times that part stands among the
parts of all. -/
theorem countP_mem_le_count_flatMap {α β : Type} [DecidableEq β] (f : α → List β) (b : β)
    (l : List α) : (l.countP fun a => b ∈ f a) ≤ (l.flatMap f).count b := by
  induction l with
  | nil => exact le_rfl
  | cons a l ih =>
    rw [List.flatMap_cons, List.count_append, List.countP_cons]
    by_cases hb : b ∈ f a
    · have hpos := List.count_pos_iff.mpr hb
      rw [if_pos (by exact decide_eq_true hb)]
      omega
    · rw [if_neg (by simpa using hb)]
      omega

/-! ## What changes of the table record -/

namespace Tracked

variable {t : TrackingTable} {moment : Timestamp} {s s' : Tracked} {op : TrackingOp}
  {ops : List TrackingOp}

/-- A change that removes nothing adds the version it records, if it records one. -/
theorem versions_change (h : s.Allows op) (hop : ∀ v, op ≠ .remove v) :
    (s.change moment op).ledger.versions.Perm (s.ledger.versions ++ op.recorded?.toList) := by
  cases op with
  | create => simp [change, TrackingOp.recorded?]
  | select => simp [change, TrackingOp.recorded?]
  | remove v => exact absurd rfl (hop v)
  | record v name =>
    have hperm := (Ledger.records_put_perm (a := ⟨v, name, moment⟩) (h.new v name rfl)).map
      Applied.version
    rwa [List.map_append] at hperm

theorem versions_applyAll (h : s.applyAll t moment ops = .ok s') (hops : ∀ v, .remove v ∉ ops) :
    s'.ledger.versions.Perm (s.ledger.versions ++ ops.filterMap TrackingOp.recorded?) := by
  induction ops generalizing s with
  | nil =>
    obtain rfl : s = s' := Except.ok.inj h
    simp
  | cons op ops ih =>
    simp only [applyAll] at h
    split at h
    swap
    · cases h
    rename_i rows u hu
    obtain ⟨hallows, rfl⟩ := allows_of_apply hu
    have hop : ∀ v, op ≠ .remove v := fun v e => hops v (e ▸ List.mem_cons_self)
    have hrest := ih h fun v hv => hops v (List.mem_cons_of_mem _ hv)
    rw [filterMap_cons_toList, ← List.append_assoc]
    exact hrest.trans ((versions_change hallows hop).append_right _)

end Tracked

namespace Store

/-- A statement that leaves the records alone does so outside a transaction too. -/
theorem versions_execute {t : TrackingTable} {q : Statement} (h : q.LeavesRecords t) (s : Store) :
    (s.execute t q).2.versions = s.versions := by
  rcases s.execute_cases t q with ⟨e, hr⟩ | ⟨-, hr⟩ | ⟨op, rows, tracked, hc, ha, hr⟩
  · rw [hr]
  · rw [hr]
    rfl
  · obtain ⟨-, rfl⟩ := Tracked.allows_of_apply ha
    have hop := h op (ofStatement_of_classify hc)
    rw [hr]
    cases op with
    | create => rfl
    | select => rfl
    | record v name => cases hop
    | remove v => cases hop

end Store

/-! ## What a transaction records -/

namespace Transaction

def recorded (tx : Transaction) : List Int64 :=
  tx.ops.filterMap TrackingOp.recorded?

/-- A transaction on a table that has recorded versions and removed none. -/
structure Recording (t : TrackingTable) (tx : Transaction) (vs : List Int64) : Prop where
  table : tx.table = t
  recorded : tx.recorded = vs
  removes : ∀ v, .remove v ∉ tx.ops

variable {t : TrackingTable} {tx : Transaction} {s s' : Store} {q : Statement} {vs : List Int64}

theorem recording_start (t : TrackingTable) (s : Store) : (start t s).Recording t [] :=
  ⟨rfl, rfl, fun _ => List.not_mem_nil⟩

/-- **One statement** adds the version it records, unless it is refused. -/
theorem Recording.execute (h : tx.Recording t vs) (hq : q.RemovesNone t) (s : Store) :
    (tx.execute s q).2.1.Recording t
      (match (tx.execute s q).1 with
        | .ok _ => vs ++ q.recorded t
        | .error _ => vs) := by
  obtain ⟨rfl, rfl, hremoves⟩ := h
  rcases tx.execute_cases s q with ⟨e, hr⟩ | ⟨hc, hr⟩ | ⟨op, rows, shadow, hc, -, hr⟩
  · rw [hr]
    exact ⟨rfl, rfl, hremoves⟩
  · have hnone : q.recorded tx.table = [] := by
      simp only [Statement.recorded, Store.ofStatement_of_classify hc]
    rw [hr, hnone]
    exact ⟨rfl, (List.append_nil _).symm, hremoves⟩
  · have hop := Store.ofStatement_of_classify hc
    have hone : q.recorded tx.table = op.recorded?.toList := by
      simp only [Statement.recorded, hop]
    rw [hr, hone]
    by_cases hs : op = .select
    · subst hs
      exact ⟨rfl, (List.append_nil _).symm, hremoves⟩
    · simp only [if_neg hs]
      refine ⟨rfl, ?_, fun v hv => ?_⟩
      · change (tx.ops ++ [op]).filterMap TrackingOp.recorded? = _
        rw [List.filterMap_append, filterMap_cons_toList, List.filterMap_nil, List.append_nil]
        rfl
      · rcases List.mem_append.mp hv with hv | hv
        · exact hremoves v hv
        · obtain rfl := List.mem_singleton.mp hv
          exact hq v hop

/-- **A commit that succeeds** adds the recorded versions to the table. -/
theorem Recording.commit (h : tx.Recording t vs) (hc : tx.commit s = (.ok (), s')) :
    s'.versions.Perm (s.versions ++ vs) := by
  unfold Transaction.commit at hc
  split at hc
  · cases hc
  · rename_i tracked happly
    obtain rfl := congrArg Prod.snd hc
    rw [← h.recorded]
    exact Tracked.versions_applyAll happly h.removes

theorem commit_error {e : StoreError} (hc : tx.commit s = (.error e, s')) : s' = s := by
  unfold Transaction.commit at hc
  split at hc
  · exact (congrArg Prod.snd hc).symm
  · cases hc

end Transaction

/-! ## Keeping account of callers -/

/-- Where a caller stands, what is left to be done is what a job may do whose transactions have
recorded the given versions so far. -/
def Caller.Applies {α : Type} (t : TrackingTable) (post : α → List Int64 → Prop)
    (vs : List Int64) : Caller α → Prop
  | outside j => j.Applies t post vs
  | inside tx w next => ∃ recorded v, tx.Recording t recorded ∧
      w.Records t (fun r recorded => r = .ok () → recorded = [v]) recorded ∧
      (next (.ok ())).Applies t post (vs ++ [v]) ∧ ∀ e, (next (.error e)).Applies t post vs

namespace Crowd

variable {ι α : Type} [DecidableEq ι]

/-- The versions that the committed transactions of one caller have recorded. -/
def appliedBy (c : Crowd ι α) (i : ι) : List Int64 :=
  (c.committed.filter fun x => x.1 = i).flatMap fun x => x.2.recorded

/-- The account of callers who have started on a store: the recorded versions are those from before
and those of the committed transactions, of which each has recorded one, and all callers stand where
their jobs allow them to. -/
structure Accounts (t : TrackingTable) (s : Store) (post : α → List Int64 → Prop)
    (c : Crowd ι α) : Prop where
  versions : c.store.versions.Perm (s.versions ++ c.committed.flatMap fun x => x.2.recorded)
  single : ∀ x ∈ c.committed, ∃ v, x.2.recorded = [v]
  callers : ∀ i, (c.callers i).Applies t post (c.appliedBy i)

namespace Accounts

variable {t : TrackingTable} {s s' : Store} {post : α → List Int64 → Prop} {c : Crowd ι α} {i : ι}
  {caller : Caller α} {holder : Option ι}

theorem start {jobs : ι → Job α} (h : ∀ i, (jobs i).Applies t post []) :
    (Crowd.start s jobs).Accounts t s post :=
  ⟨by simp [Crowd.start], List.forall_mem_nil _, h⟩

/-- A caller goes on, and no version is recorded. -/
theorem move (h : c.Accounts t s post) (hs : s'.versions = c.store.versions)
    (hcaller : caller.Applies t post (c.appliedBy i)) :
    (c.move i caller s' holder).Accounts t s post := by
  refine ⟨hs ▸ h.versions, h.single, fun j => ?_⟩
  by_cases hji : j = i
  · subst hji
    rw [callers_move_self]
    exact hcaller
  · rw [callers_move_of_ne _ _ _ _ _ hji]
    exact h.callers j

/-- A caller's transaction is committed, and with it one version is recorded. -/
theorem commit (h : c.Accounts t s post) {tx : Transaction} {v : Int64}
    (htx : tx.Recording t [v]) (hs : tx.commit c.store = (.ok (), s'))
    (hcaller : caller.Applies t post (c.appliedBy i ++ [v])) :
    { c.move i caller s' none with committed := c.committed ++ [(i, tx)] }.Accounts t s post := by
  refine ⟨?_, ?_, fun j => ?_⟩
  · change s'.versions.Perm (s.versions ++ (c.committed ++ [(i, tx)]).flatMap fun x => x.2.recorded)
    rw [List.flatMap_append, List.flatMap_singleton, htx.recorded, ← List.append_assoc]
    exact (htx.commit hs).trans (h.versions.append_right _)
  · intro x hx
    rcases List.mem_append.mp hx with hx | hx
    · exact h.single x hx
    · obtain rfl := List.mem_singleton.mp hx
      exact ⟨v, htx.recorded⟩
  · change ((c.move i caller s' none).callers j).Applies t post
      (((c.committed ++ [(i, tx)]).filter fun x => x.1 = j).flatMap fun x => x.2.recorded)
    by_cases hji : j = i
    · subst hji
      rw [callers_move_self, List.filter_append, List.flatMap_append]
      simpa [appliedBy, htx.recorded] using hcaller
    · rw [callers_move_of_ne _ _ _ _ _ hji, List.filter_append, List.flatMap_append]
      simpa [appliedBy, Ne.symm hji] using h.callers j

/-- **One turn** keeps the account. -/
theorem turn (h : c.Accounts t s post) (i : ι) : (c.turn t i).Accounts t s post := by
  have hmine := h.callers i
  cases hc : c.callers i with
  | outside j =>
    rw [hc] at hmine
    cases j with
    | done a => rwa [turn_done hc]
    | report e next =>
      rw [turn_report hc]
      exact h.move rfl hmine
    | execute q next =>
      obtain ⟨hq, hnext⟩ := hmine
      rw [turn_execute hc]
      exact h.move (Store.versions_execute hq c.store) (hnext _)
    | transact w next =>
      by_cases hfree : c.holder = none
      · obtain ⟨v, hw, hnext⟩ := hmine
        rw [turn_transact_of_free hc hfree]
        exact h.move rfl ⟨[], v, Transaction.recording_start t c.store, hw, hnext⟩
      · rwa [turn_transact_of_held hc hfree]
  | inside tx w next =>
    rw [hc] at hmine
    obtain ⟨recorded, v, htx, hw, hok, herror⟩ := hmine
    cases w with
    | report e w =>
      rw [turn_inside_report hc]
      exact h.move rfl ⟨recorded, v, htx, hw, hok, herror⟩
    | execute q w =>
      obtain ⟨hq, hrefused, htaken⟩ := hw
      obtain ⟨journal, hs⟩ := tx.execute_store c.store q
      have htx' := htx.execute hq c.store
      rw [turn_inside_execute hc]
      refine h.move (by rw [hs]; rfl) ⟨_, v, htx', ?_, hok, herror⟩
      cases (tx.execute c.store q).1 with
      | error e => exact hrefused e
      | ok rows => exact htaken rows
    | done r =>
      cases r with
      | error e =>
        rw [turn_drop hc]
        exact h.move rfl (herror e)
      | ok u =>
        obtain rfl := hw rfl
        rcases hcommit : tx.commit c.store with ⟨e | _, s'⟩
        · rw [turn_commit_error hc hcommit, Transaction.commit_error hcommit]
          exact h.move rfl (herror e)
        · rw [turn_commit_ok hc hcommit]
          exact h.commit htx hcommit hok

/-- **A whole schedule** keeps the account. -/
theorem after (h : c.Accounts t s post) (schedule : List (Beat ι)) :
    (c.after t schedule).Accounts t s post := by
  induction schedule generalizing c with
  | nil => exact h
  | cons b rest ih =>
    cases b with
    | turn i => exact ih (h.turn i)
    | wait now => exact ih ⟨h.versions, h.single, h.callers⟩

/-! ### What the account tells -/

/-- Once a caller has found something, `post` holds of it and of what its transactions have
recorded. -/
theorem post_of_result (h : c.Accounts t s post) {a : α} (ha : (c.callers i).result? = some a) :
    post a (c.appliedBy i) := by
  have hmine := h.callers i
  unfold Caller.result? at ha
  split at ha
  · rename_i hc
    obtain rfl := Option.some.inj ha
    rw [hc] at hmine
    exact hmine
  · cases ha

theorem nodup (h : c.Accounts t s post) :
    (s.versions ++ c.committed.flatMap fun x => x.2.recorded).Nodup :=
  h.versions.nodup_iff.mp (Ledger.nodup_versions _)

/-- A version is recorded by one transaction at most, and by none if it was there before. -/
theorem countP_le (h : c.Accounts t s post) (v : Int64) :
    (c.committed.countP fun x => v ∈ x.2.recorded) ≤ if v ∈ s.versions then 0 else 1 := by
  have hle := countP_mem_le_count_flatMap (fun x : ι × Transaction => x.2.recorded) v c.committed
  have honce := List.nodup_iff_count_le_one.mp h.nodup v
  rw [List.count_append] at honce
  split
  · rename_i hv
    have hpos := List.count_pos_iff.mpr hv
    omega
  · omega

theorem mem_appliedBy_iff {v : Int64} :
    v ∈ c.appliedBy i ↔ ∃ x ∈ c.committed, x.1 = i ∧ v ∈ x.2.recorded := by
  simp only [appliedBy, List.mem_flatMap, List.mem_filter, decide_eq_true_eq, and_assoc]

/-- The transactions of different callers record different versions. -/
theorem disjoint_appliedBy (h : c.Accounts t s post) {j : ι} (hij : i ≠ j) :
    (c.appliedBy i).Disjoint (c.appliedBy j) := by
  intro v hi hj
  obtain ⟨x, hx, hxi, hvx⟩ := mem_appliedBy_iff.mp hi
  obtain ⟨y, hy, hyj, hvy⟩ := mem_appliedBy_iff.mp hj
  obtain ⟨-, hpairs⟩ := List.nodup_flatMap.mp (List.nodup_append.mp h.nodup).2.1
  have hxy : x ≠ y := fun e => hij (hxi.symm.trans ((congrArg Prod.fst e).trans hyj))
  have hsymm : Std.Symm (Function.onFun List.Disjoint fun x : ι × Transaction => x.2.recorded) :=
    ⟨fun _ _ hd _ hx hy => hd hy hx⟩
  exact hpairs.forall hx hy hxy hvx hvy

/-- What the transactions of all callers have recorded is what is new in the table. -/
theorem exists_mem_appliedBy_iff (h : c.Accounts t s post) {v : Int64} :
    (∃ i, v ∈ c.appliedBy i) ↔ v ∈ c.store.versions ∧ v ∉ s.versions := by
  have hall : (∃ i, v ∈ c.appliedBy i) ↔ v ∈ c.committed.flatMap fun x => x.2.recorded := by
    simp only [mem_appliedBy_iff, List.mem_flatMap]
    exact ⟨fun ⟨_, x, hx, _, hv⟩ => ⟨x, hx, hv⟩, fun ⟨x, hx, hv⟩ => ⟨x.1, x, hx, rfl, hv⟩⟩
  rw [hall, h.versions.mem_iff, List.mem_append]
  constructor
  · intro hv
    exact ⟨.inr hv, fun hs => (List.nodup_append.mp h.nodup).2.2 v hs v hv rfl⟩
  · rintro ⟨hv, hs⟩
    exact hv.resolve_left hs

end Accounts

end Crowd

namespace Migrator

open Crowd (Accounts)

/-- The versions that a caller has reported as applied, which are none before the call returns. -/
def reportedBy {ι : Type} (c : Crowd ι (Except MigrationError (List Migration))) (i : ι) :
    List Version :=
  ((c.callers i).result?.map reportedApplied).getD []

variable {ι : Type} [DecidableEq ι] {t : TrackingTable} {s : Store}
  {c : Crowd ι (Except MigrationError (List Migration))} {i : ι}

theorem reportedBy_eq_appliedBy (h : c.Accounts t s fun r vs => reportedApplied r = vs)
    (hi : (c.callers i).result?.isSome) : reportedBy c i = c.appliedBy i := by
  obtain ⟨r, hr⟩ := Option.isSome_iff_exists.mp hi
  rw [reportedBy, hr]
  exact h.post_of_result hr

theorem reportedBy_subset_appliedBy (h : c.Accounts t s fun r vs => reportedApplied r = vs) :
    reportedBy c i ⊆ c.appliedBy i := by
  cases hi : (c.callers i).result? with
  | some r => rw [reportedBy_eq_appliedBy h (by rw [hi]; rfl)]; exact List.Subset.refl _
  | none =>
    rw [reportedBy, hi]
    exact List.nil_subset _

/-- **Callers side by side apply each version at most once.**  Let any number of callers of `migrate`,
each with a target of its own, take turns on one store, a request at a time and in any order, while
the directory stays as it is and nothing else happens but that time passes.  Then at any moment each
committed transaction has recorded one version, and no version has been recorded by two of them, nor
by any if it was recorded at the start; what different callers report has no version in common; once
all calls have returned, the reported versions are exactly those that are new in the table; and the
turns can always go on so that any calls return. -/
theorem concurrent_migrate_applies_once (m : Migrator) (folder : Folder) (s : Store)
    (target : ι → Option Version) (schedule : List (Beat ι)) :
    let c := (Crowd.start s fun i => (m.migrate folder (target i)).run).after m.table schedule
    (∀ x ∈ c.committed, ∃ v, x.2.recorded = [v]) ∧
      (∀ v, (c.committed.countP fun x => v ∈ x.2.recorded) ≤ if v ∈ s.versions then 0 else 1) ∧
      (∀ i j, i ≠ j → (reportedBy c i).Disjoint (reportedBy c j)) ∧
      ((∀ i, (c.callers i).result?.isSome) → ∀ v,
        (∃ i, v ∈ reportedBy c i) ↔ v ∈ c.store.versions ∧ v ∉ s.versions) ∧
      ∀ is : List ι, ∃ rest, ∀ i ∈ is, ((c.after m.table rest).callers i).result?.isSome := by
  intro c
  -- both invariants hold at the start and are kept by every turn
  have hlocked : c.Locked := (Crowd.locked_start s _).after schedule
  have h : c.Accounts m.table s fun r vs => reportedApplied r = vs :=
    (Accounts.start fun i => m.applies_migrate folder (target i)).after schedule
  refine ⟨h.single, h.countP_le, fun i j hij => ?_, fun hall v => ?_, hlocked.exists_all_done⟩
  · intro v hi hj
    exact h.disjoint_appliedBy hij (reportedBy_subset_appliedBy h hi)
      (reportedBy_subset_appliedBy h hj)
  · rw [← h.exists_mem_appliedBy_iff]
    exact exists_congr fun i => by rw [reportedBy_eq_appliedBy h (hall i)]

/-- The same of two callers of a directory with one file who both read the table before either of
them applies it.  One call applies the file, and the other is refused the record. -/
theorem concurrent_migrate_applies_once_of_race :
    let m : Migrator := { directory := "migrations" }
    let folder : Folder :=
      .ok [(Text.Utf8.encode "1_a.sql".toList, .file (.text "SELECT 1"))]
    let s : Store := { clock := ⟨⟨2024, 1, 1⟩, 0, 0, 0, 0⟩ }
    let target : Bool → Option Version := fun _ => none
    let schedule : List (Beat Bool) := (List.replicate 15 [.turn true, .turn false]).flatten
    let c := (Crowd.start s fun i => (m.migrate folder (target i)).run).after m.table schedule
    (∀ i, (c.callers i).result?.isSome) ∧
      reportedBy c true = [1] ∧ (c.callers false).result?.map Except.isOk = some false ∧
      (c.committed.countP fun x => 1 ∈ x.2.recorded) ≤ 1 ∧
      ∀ v, (∃ i, v ∈ reportedBy c i) ↔ v ∈ c.store.versions ∧ v ∉ s.versions := by
  intro m folder s target schedule c
  have hwins : reportedBy c true = [1] := by decide +kernel
  have hloses : (c.callers false).result?.map Except.isOk = some false := by decide +kernel
  have hreturned : ∀ i, (c.callers i).result?.isSome := by decide +kernel
  have hnew : 1 ∉ s.versions := by decide +kernel
  -- the values are not needed any more, and comparing statements would evaluate them
  clear_value m folder s target schedule
  obtain ⟨-, honce, -, hall, -⟩ := concurrent_migrate_applies_once m folder s target schedule
  have honce' := honce 1
  rw [if_neg hnew] at honce'
  exact ⟨hreturned, hwins, hloses, honce', hall hreturned⟩

end Migrator

end SchemaKit
