import SchemaKit.Proofs.Resume

/-!
# Targets

A target cuts off what lies beyond it.  If no two files share a version, what a call of `migrate`
applies is therefore a front part of all that is not applied: up to the first migration that cannot
be applied or lies beyond the target (`Migrator.reached`).  Two calls in a row reach what the call
with the farther target reaches (`reached_append_reached`), so they leave the same.
-/

namespace SchemaKit

/-! ## Going on from where one stopped -/

section TakeWhile

variable {α : Type} {p q : α → Bool} {l : List α}

/-- If a condition holds of all that stands before an element of which it holds, then what is
selected by it is a front part. -/
theorem filter_eq_takeWhile (h : l.Pairwise fun x y => p y = true → p x = true) :
    l.filter p = l.takeWhile p := by
  induction l with
  | nil => rfl
  | cons x l ih =>
    obtain ⟨hx, hl⟩ := List.pairwise_cons.mp h
    by_cases hpx : p x = true
    · rw [List.filter_cons_of_pos hpx, List.takeWhile_cons_of_pos hpx, ih hl]
    · have hnone : l.filter p = [] := List.filter_eq_nil_iff.mpr fun y hy hpy => hpx (hx y hy hpy)
      rw [List.filter_cons_of_neg hpx, List.takeWhile_cons_of_neg hpx, hnone]

theorem takeWhile_or_of_false (h : ∀ x ∈ l, p x = false) :
    (l.takeWhile fun x => p x || q x) = l.takeWhile q := by
  induction l with
  | nil => rfl
  | cons x l ih =>
    obtain ⟨hx, hl⟩ := List.forall_mem_cons.mp h
    simp only [List.takeWhile_cons, hx, Bool.false_or, ih hl]

/-- Taking by one condition and then, from there, by another is taking by either, if behind the
first element that only the other one admits the first one admits nothing. -/
theorem takeWhile_append_takeWhile_drop
    (h : l.Pairwise fun x y => p x = false → q x = true → p y = false) :
    l.takeWhile p ++ (l.drop (l.takeWhile p).length).takeWhile q =
      l.takeWhile fun x => p x || q x := by
  induction l with
  | nil => rfl
  | cons x l ih =>
    obtain ⟨hx, hl⟩ := List.pairwise_cons.mp h
    cases hp : p x with
    | true =>
      have hrest := ih hl
      simp only [List.takeWhile_cons, hp, Bool.true_or, if_true, List.length_cons,
        List.drop_succ_cons, List.cons_append, hrest]
    | false =>
      simp only [List.takeWhile_cons, hp, Bool.false_or, Bool.false_eq_true, if_false,
        List.length_nil, List.drop_zero, List.nil_append]
      cases hq : q x with
      | false => rfl
      | true =>
        have hlater : ∀ y ∈ l, p y = false := fun y hy => hx y hy hp hq
        rw [takeWhile_or_of_false hlater]

end TakeWhile

namespace Migrator

open Job (attempt)

/-! ## Targets -/

/-- The farther of two targets.  No target is the farthest. -/
def farther : Option Version → Option Version → Option Version
  | some a, some b => some (max a b)
  | _, _ => none

theorem farther_self (a : Option Version) : farther a a = a := by
  cases a with
  | none => rfl
  | some v =>
    have hmax : max v v = v := ite_self v
    exact congrArg some hmax

theorem within_farther (a b : Option Version) (v : Version) :
    within (farther a b) v = (within a v || within b v) := by
  cases a with
  | none => rfl
  | some a =>
    cases b with
    | none => exact (Bool.or_true _).symm
    | some b =>
      have hmax : v ≤ max a b ↔ v ≤ a ∨ v ≤ b := by
        change v ≤ (if a ≤ b then b else a) ↔ _
        split
        · rename_i hab
          exact ⟨.inr, fun h => h.elim (Int64.le_trans · hab) id⟩
        · rename_i hab
          have hba : b ≤ a := (Int64.le_total a b).resolve_left hab
          exact ⟨.inl, fun h => h.elim id (Int64.le_trans · hba)⟩
      simp only [farther, within, hmax, Bool.decide_or]

/-- A target that admits a version admits all lower ones. -/
theorem within_of_lt {target : Option Version} {v w : Version} (hvw : v < w)
    (hw : within target w = true) : within target v = true := by
  cases target with
  | none => rfl
  | some t =>
    have hwt : w ≤ t := of_decide_eq_true hw
    exact decide_eq_true (Int64.le_trans (Int64.le_of_lt hvw) hwt)

/-! ## What a call reaches -/

variable (m : Migrator) (folder : Folder) (s : Store) (target : Option Version)

def remaining : List Migration :=
  notApplied s.versions none (m.found folder)

/-- Whether a call with a target goes on with a migration. -/
def passes (x : Migration) : Bool :=
  m.isApplicable folder s x && within target x.version

/-- The migrations that a call applies: all that are not applied, up to the first that it does not
go on with. -/
def reached : List Migration :=
  if m.canRead s then (m.remaining folder s).takeWhile (m.passes folder s target) else []

variable {m folder s}

theorem reached_isPrefix : m.reached folder s target <+: m.remaining folder s := by
  unfold reached
  split
  · exact List.takeWhile_prefix _
  · exact List.nil_prefix

theorem pairwise_remaining (hfound : ((m.found folder).map Migration.version).Nodup) :
    (m.remaining folder s).Pairwise fun x y => x.version < y.version :=
  (pairwise_found_of_nodup hfound).sublist List.filter_sublist

/-- Over distinct versions a target cuts off the end of what is not applied. -/
theorem notApplied_eq_takeWhile (hfound : ((m.found folder).map Migration.version).Nodup) :
    notApplied s.versions target (m.found folder) =
      (m.remaining folder s).takeWhile fun x => within target x.version := by
  rw [← filter_eq_takeWhile ((pairwise_remaining hfound).imp fun hxy => within_of_lt hxy)]
  unfold remaining notApplied
  rw [List.filter_filter]
  refine List.filter_congr fun x _ => ?_
  rw [show within none x.version = true from rfl, Bool.and_true, Bool.and_comm]

/-- **One call** over distinct versions applies what it reaches and nothing else. -/
theorem adds_reached (hfound : ((m.found folder).map Migration.version).Nodup) :
    m.Adds folder s s.books (m.reached folder s target)
      (attempt m.table s (m.migrate folder target)).2.books := by
  have hadds := adds_of_migrate (s := s) target hfound
  rw [notApplied_eq_takeWhile target hfound, List.takeWhile_takeWhile] at hadds
  simp only [Bool.decide_and, Bool.decide_eq_true] at hadds
  exact hadds

/-- What a call does not change decides what the next one goes on with. -/
theorem reached_congr (m : Migrator) (folder : Folder) {s' : Store}
    (hfailures : s.failures = s'.failures) :
    m.canRead s = m.canRead s' ∧ m.passes folder s target = m.passes folder s' target := by
  constructor
  · unfold canRead
    rw [Store.accepts_congr _ hfailures, Store.accepts_congr _ hfailures]
  · funext x
    unfold passes
    rw [isApplicable_congr hfailures]

/-- **Two calls in a row** reach what the call with the farther target reaches. -/
theorem reached_append_reached {s' : Store} (a b : Option Version)
    (hfound : ((m.found folder).map Migration.version).Nodup)
    (hfailures : s'.failures = s.failures)
    (hadds : m.Adds folder s s.books (m.reached folder s a) s'.books) :
    m.reached folder s a ++ m.reached folder s' b = m.reached folder s (farther a b) := by
  obtain ⟨hread, hpasses⟩ := reached_congr b m folder hfailures
  have hleft : m.remaining folder s' = (m.remaining folder s).drop (m.reached folder s a).length :=
    notApplied_eq_drop none (pairwise_found_of_nodup hfound) hadds (reached_isPrefix a)
  have hfarther : m.passes folder s (farther a b) =
      fun x => m.passes folder s a x || m.passes folder s b x := by
    funext x
    unfold passes
    rw [within_farther, Bool.and_or_distrib_left]
  unfold reached at hleft ⊢
  rw [hread, hpasses, hleft, hfarther]
  by_cases hcan : m.canRead s = true
  · simp only [if_pos hcan]
    refine takeWhile_append_takeWhile_drop ((pairwise_remaining hfound).imp ?_)
    -- a migration that only the second call goes on with lies beyond the first target
    intro x y hxy hx hy
    have happlicable : m.isApplicable folder s x = true := (Bool.and_eq_true_iff.mp hy).1
    have hbeyond : within a x.version = false := by
      simpa only [passes, happlicable, Bool.true_and] using hx
    have hbeyond' : within a y.version = false := by
      refine Bool.eq_false_iff.mpr fun h => ?_
      rw [within_of_lt hxy h] at hbeyond
      cases hbeyond
    simp only [passes, hbeyond', Bool.and_false]
  · simp only [if_neg hcan, List.append_nil]

/-! ## Calls in a row -/

theorem failures_of_attempt {α : Type} (j : Attempt α) :
    (attempt m.table s j).2.failures = s.failures := by
  obtain ⟨tracked, executed, journal, h⟩ := Job.run_frame j.run m.table s
  rw [attempt, h]

/-- **Two calls in a row leave what one leaves**: the one with the farther target. -/
theorem books_of_targets (a b : Option Version) (s₂ s₃ : Store)
    (hfound : ((m.found folder).map Migration.version).Nodup)
    (h₂ : s₂.books = (attempt m.table s (m.migrate folder a)).2.books)
    (hfailures₂ : s₂.failures = s.failures) (h₃ : s₃.books = s.books)
    (hfailures₃ : s₃.failures = s.failures) :
    let twice := (attempt m.table s₂ (m.migrate folder b)).2
    let once := (attempt m.table s₃ (m.migrate folder (farther a b))).2
    twice.tracked.ledger.entries = once.tracked.ledger.entries ∧ twice.executed = once.executed := by
  have hfirst := adds_reached (s := s) a hfound
  rw [← h₂] at hfirst
  have hsecond := adds_reached (s := s₂) b hfound
  have honce := adds_reached (s := s₃) (farther a b) hfound
  have hstart : m.reached folder s₃ (farther a b) = m.reached folder s (farther a b) := by
    obtain ⟨hread, hpasses⟩ := reached_congr (farther a b) m folder hfailures₃
    have hversions : s₃.versions = s.versions := congrArg (fun b : Books => b.ledger.versions) h₃
    unfold reached remaining
    rw [hread, hpasses, hversions]
  rw [hstart, h₃, ← reached_append_reached a b hfound hfailures₂ hfirst] at honce
  exact hfirst.resumed hsecond honce

/-- **Targets compose.**  Let no two discovered files share a version.  Then migrating a store with
any records, log and failure markers to one target and after that to another, whatever comes of
either, leaves the rows and the log that migrating to the farther of the two leaves at once.  In
particular, migrating to a target a second time leaves the rows and the log as the first time has
left them.  The clock may move in between. -/
theorem migrate_targets_compose (m : Migrator) (folder : Folder) (s : Store)
    (a b : Option Version) (now now' : Timestamp)
    (h : ∀ found, (attempt m.table s (m.discover folder)).1 = .ok found →
      (found.map Migration.version).Nodup) :
    (let both := (m.session folder s [.migrate a, .wait now, .migrate b]).2
      let farthest := (m.session folder s [.wait now', .migrate (farther a b)]).2
      both.tracked.ledger.entries = farthest.tracked.ledger.entries ∧
        both.executed = farthest.executed) ∧
    (let once := (m.session folder s [.migrate a]).2
      let again := (m.session folder s [.migrate a, .wait now, .migrate a]).2
      again.tracked.ledger.entries = once.tracked.ledger.entries ∧
        again.executed = once.executed) := by
  have hfound := nodup_found_of_discovered h
  simp only [snd_session_migrate, snd_session_wait, session_nil]
  have hfailures : ({ (attempt m.table s (m.migrate folder a)).2 with clock := now }).failures =
      s.failures := failures_of_attempt (m.migrate folder a)
  constructor
  · exact books_of_targets a b _ _ hfound (Store.books_wait _ _) hfailures (Store.books_wait _ _) rfl
  · have hagain := books_of_targets a a _ s hfound (Store.books_wait _ now) hfailures rfl rfl
    rwa [farther_self] at hagain

/-- The same of three files where the second version is recorded already and the last file cannot be
applied: first to the lowest version, then without a bound. -/
theorem migrate_targets_compose_over_gap :
    let m : Migrator := { directory := "migrations" }
    let folder : Folder := .ok
      [(Text.Utf8.encode "1_a.sql".toList, .file (.text "SELECT 1")),
        (Text.Utf8.encode "2_b.sql".toList, .file (.text "SELECT 2")),
        (Text.Utf8.encode "3_c.sql".toList, .file (.text "SELECT 3"))]
    let now : Timestamp := ⟨⟨2024, 1, 1⟩, 0, 0, 0, 0⟩
    let s : Store := { (Store.seed { clock := now } 2 "b") with failures := ["3"] }
    (∀ found, (attempt m.table s (m.discover folder)).1 = .ok found →
      (found.map Migration.version).Nodup) ∧
    (let both := (m.session folder s [.migrate (some 1), .wait now, .migrate none]).2
      let farthest := (m.session folder s [.wait now, .migrate (farther (some 1) none)]).2
      both.tracked.ledger.entries = farthest.tracked.ledger.entries ∧
        both.executed = farthest.executed) ∧
    (let once := (m.session folder s [.migrate (some 1)]).2
      let again := (m.session folder s [.migrate (some 1), .wait now, .migrate (some 1)]).2
      again.tracked.ledger.entries = once.tracked.ledger.entries ∧
        again.executed = once.executed) := by
  intro m folder now s
  have hfound : m.found folder =
      [⟨1, "a", "migrations/1_a.sql", "1_a.sql"⟩, ⟨2, "b", "migrations/2_b.sql", "2_b.sql"⟩,
        ⟨3, "c", "migrations/3_c.sql", "3_c.sql"⟩] := by
    cbv
  have hdistinct : ∀ found, (attempt m.table s (m.discover folder)).1 = .ok found →
      (found.map Migration.version).Nodup := by
    intro found hd
    rw [m.eq_found_of_discovered hd, hfound]
    decide
  exact ⟨hdistinct, migrate_targets_compose m folder s (some 1) none now now hdistinct⟩

end Migrator

end SchemaKit
