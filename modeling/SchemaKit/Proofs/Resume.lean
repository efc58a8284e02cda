import Mathlib
import SchemaKit.Proofs.Acceptance
import SchemaKit.Proofs.Session

/-!
# Resuming

If no two files share a version, a call of `migrate` applies what is pending up to the first
migration that cannot be applied, and which those are does not depend on what is recorded
(`finished_eq_takeWhile`, `adds_of_migrate`).  So a call that has been stopped by failure markers can
be resumed without them: what is then pending is what was left over (`notApplied_eq_drop`), and both
calls together leave what one would have left.
-/

namespace SchemaKit

namespace Migrator

open Job (attempt)

variable {m : Migrator} {folder : Folder} {s : Store} {b b' : Books} {l : List Migration}

/-! ## How far a run comes -/

/-- **A run** over new and distinct versions comes to the first migration that cannot be applied. -/
theorem finished_eq_takeWhile (hl : (b.ledger.versions ++ l.map Migration.version).Nodup) :
    (Progress.along (m.advance folder s) b l).finished =
      l.takeWhile (m.isApplicable folder s) := by
  induction l generalizing b with
  | nil => rfl
  | cons x rest ih =>
    rw [List.map_cons] at hl
    have hnew : b.ledger.contains x.version = false := by
      refine Ledger.contains_eq_false_iff.mpr fun hx => ?_
      exact (List.nodup_append.mp hl).2.2 _ hx _ List.mem_cons_self rfl
    have hok := m.isOk_advance folder s b x
    rw [hnew, Bool.not_false, Bool.and_true] at hok
    rw [List.takeWhile_cons, ← hok]
    cases ha : m.advance folder s b x with
    | error why =>
      rw [Progress.along_cons_error ha]
      rfl
    | ok b' =>
      rw [Progress.along_cons_ok ha]
      -- the version has moved from the list to the records
      have hmoved : (b'.ledger.versions ++ rest.map Migration.version).Perm
          (b.ledger.versions ++ x.version :: rest.map Migration.version) := by
        have hadded := (adds_of_advance ha).perm_versions.append_right (rest.map Migration.version)
        rwa [List.append_assoc] at hadded
      exact congrArg (x :: ·) (ih (hmoved.nodup_iff.mpr hl))

/-- Pending migrations are new, and distinct if the discovered ones are. -/
theorem nodup_versions_append_notApplied {found : List Migration}
    (hfound : (found.map Migration.version).Nodup) (ledger : Ledger) (target : Option Version) :
    (ledger.versions ++ (notApplied ledger.versions target found).map Migration.version).Nodup := by
  refine List.nodup_append.mpr ⟨ledger.nodup_versions, ?_, ?_⟩
  · exact hfound.sublist (List.filter_sublist.map _)
  · rintro v hv w hw rfl
    obtain ⟨x, hx, rfl⟩ := List.mem_map.mp hw
    have hnew := (List.mem_filter.mp hx).2
    rw [Bool.and_eq_true, Bool.not_eq_true', List.contains_eq_mem, decide_eq_false_iff_not] at hnew
    exact hnew.1 hv

/-! ## What a call leaves behind -/

variable (target : Option Version)

/-- **One call** over distinct versions applies what is pending up to the first migration that
cannot be applied, and nothing at all if the table cannot be read. -/
theorem adds_of_migrate (hfound : ((m.found folder).map Migration.version).Nodup) :
    m.Adds folder s s.books
      (if m.canRead s then
        (notApplied s.versions target (m.found folder)).takeWhile (m.isApplicable folder s)
      else [])
      (attempt m.table s (m.migrate folder target)).2.books := by
  set pending := notApplied s.versions target (m.found folder) with hpending
  by_cases hread : m.canRead s = true
  · rw [if_pos hread]
    cases folder with
    | error why =>
      -- there is nothing in a directory that cannot be listed
      have hno : (m.canRead s && (Except.error why : Folder).isOk) = false := Bool.and_false _
      obtain ⟨e, s', hr, -, hb⟩ := m.attempt_migrate_of_not (.error why) s target hno
      rw [hpending, hr, hb, found_eq_nil]
      exact Adds.nil s.books
    | ok es =>
      obtain ⟨journal, hr⟩ := m.attempt_migrate_of_canRead (.ok es) s target hread rfl
      have hfinished : (Progress.along (m.advance (.ok es) s) s.books pending).finished =
          pending.takeWhile (m.isApplicable (.ok es) s) :=
        finished_eq_takeWhile (nodup_versions_append_notApplied hfound s.tracked.ledger target)
      rw [hr, ← hfinished]
      exact adds_of_foldlM (Progress.foldlM_finished s.books pending)
  · rw [if_neg hread]
    have hno : (m.canRead s && folder.isOk) = false := by
      rw [Bool.eq_false_iff.mpr hread, Bool.false_and]
    obtain ⟨e, s', hr, -, hb⟩ := m.attempt_migrate_of_not folder s target hno
    rw [hr, hb]
    exact Adds.nil s.books

/-- Without failure markers the table can always be read. -/
theorem adds_of_migrate_unmarked (hfound : ((m.found folder).map Migration.version).Nodup)
    (h : s.failures = []) :
    m.Adds folder s s.books
      ((notApplied s.versions target (m.found folder)).takeWhile (m.isApplicable folder s))
      (attempt m.table s (m.migrate folder target)).2.books := by
  have hadds := adds_of_migrate (s := s) target hfound
  rwa [if_pos (m.canRead_of_unmarked h)] at hadds

/-- A call of `migrate` succeeds where the versions are distinct and each pending migration can be
applied. -/
theorem migrate_of_applicable (hfound : ((m.found folder).map Migration.version).Nodup)
    (hread : m.canRead s = true) (hlisted : folder.isOk = true)
    (h : ∀ x ∈ notApplied s.versions target (m.found folder), m.isApplicable folder s x = true) :
    (attempt m.table s (m.migrate folder target)).1 =
      .ok (notApplied s.versions target (m.found folder)) := by
  obtain ⟨journal, hr⟩ := m.attempt_migrate_of_canRead folder s target hread hlisted
  set pending := notApplied s.versions target (m.found folder)
  have hfinished : (Progress.along (m.advance folder s) s.books pending).finished = pending := by
    rw [finished_eq_takeWhile (nodup_versions_append_notApplied hfound s.tracked.ledger target)]
    exact List.takeWhile_eq_self_iff.mpr h
  rw [hr]
  unfold appliedOutcome
  cases hstop : (Progress.along (m.advance folder s) s.books pending).stop with
  | none => exact congrArg Except.ok hfinished
  | some stop =>
    -- a run stops in front of a migration, so that there would be one left
    obtain ⟨rest, hsplit, -⟩ := Progress.split_of_stop hstop
    rw [hfinished] at hsplit
    exact absurd (List.self_eq_append_right.mp hsplit) (List.cons_ne_nil _ rest)

/-! ## Going on -/

/-- **What is left over**: once a part of what is pending has been applied, from the front, the rest
is pending. -/
theorem notApplied_eq_drop {found : List Migration}
    (hfound : found.Pairwise fun x y => x.version < y.version) (h : m.Adds folder s b l b')
    (hl : l <+: notApplied b.ledger.versions target found) :
    notApplied b'.ledger.versions target found =
      (notApplied b.ledger.versions target found).drop l.length := by
  set pending := notApplied b.ledger.versions target found with hpending
  have hleft : notApplied b'.ledger.versions target found =
      pending.filter fun x => !(l.map Migration.version).contains x.version := by
    rw [hpending]
    unfold notApplied
    rw [List.filter_filter]
    refine List.filter_congr fun x _ => ?_
    rw [h.perm_versions.contains_eq, List.contains_append, Bool.not_or]
    ac_rfl
  rw [hleft]
  conv_lhs => rw [List.prefix_iff_eq_take.mp hl]
  exact Migration.filter_not_taken (hfound.sublist List.filter_sublist) l.length

/-- **In one go or in two**: what is left does not depend on it, nor on the moments. -/
theorem Adds.resumed {s₁ s₂ s₃ : Store} {l₁ l₂ : List Migration} {b₁ b₂ b₃ : Books}
    (h₁ : m.Adds folder s₁ b l₁ b₁) (h₂ : m.Adds folder s₂ b₁ l₂ b₂)
    (h₃ : m.Adds folder s₃ b (l₁ ++ l₂) b₃) :
    b₂.ledger.entries = b₃.ledger.entries ∧ b₂.log = b₃.log := by
  constructor
  · have htwo : b₂.ledger.entries.Perm
        (b.ledger.entries ++ (l₁ ++ l₂).map Migration.entry) := by
      rw [List.map_append, ← List.append_assoc]
      exact h₂.perm_entries.trans (h₁.perm_entries.append_right _)
    exact Ledger.eq_of_perm_of_ascending b₂.ledger.pairwise_entries b₃.ledger.pairwise_entries
      (htwo.trans h₃.perm_entries.symm)
  · obtain ⟨texts₁, htexts₁, hlog₁⟩ := h₁.log
    obtain ⟨texts₂, htexts₂, hlog₂⟩ := h₂.log
    obtain ⟨texts₃, htexts₃, hlog₃⟩ := h₃.log
    have htexts : texts₁ ++ texts₂ = texts₃ := by
      rw [List.mapM_append, htexts₁, htexts₂] at htexts₃
      exact Except.ok.inj htexts₃
    rw [hlog₂, hlog₁, hlog₃, ← htexts, TrackingTable.logged_append, List.append_assoc]

theorem nodup_found_of_discovered
    (h : ∀ found, (attempt m.table s (m.discover folder)).1 = .ok found →
      (found.map Migration.version).Nodup) :
    ((m.found folder).map Migration.version).Nodup := by
  obtain ⟨journal, hd⟩ := m.attempt_discover s folder m.table
  cases folder with
  | error why =>
    rw [found_eq_nil]
    exact List.nodup_nil
  | ok es => exact h _ (congrArg Prod.fst hd)

theorem pairwise_found_of_nodup (h : ((m.found folder).map Migration.version).Nodup) :
    (m.found folder).Pairwise fun x y => x.version < y.version :=
  Migration.firsts_eq_self h ▸ Migration.pairwise_firsts (m.pairwise_found folder)

/-- **A second call without markers completes the first**: from books as the first call has left them
it leads to the same as one call without markers from books as they were before. -/
theorem books_of_resumed (s₂ s₃ : Store)
    (hfound : ((m.found folder).map Migration.version).Nodup)
    (h₂ : s₂.books = (attempt m.table s (m.migrate folder target)).2.books)
    (hunmarked₂ : s₂.failures = []) (h₃ : s₃.books = s.books) (hunmarked₃ : s₃.failures = []) :
    let twice := (attempt m.table s₂ (m.migrate folder target)).2
    let once := (attempt m.table s₃ (m.migrate folder target)).2
    twice.tracked.ledger.entries = once.tracked.ledger.entries ∧ twice.executed = once.executed := by
  set pending := notApplied s.versions target (m.found folder) with hpending
  set finished := if m.canRead s then pending.takeWhile (m.isApplicable folder s) else []
    with hfinished
  have hfirst := adds_of_migrate (s := s) target hfound
  rw [← hpending, ← hfinished, ← h₂] at hfirst
  have hsecond := adds_of_migrate_unmarked target hfound hunmarked₂
  have honce := adds_of_migrate_unmarked target hfound hunmarked₃
  -- what is applied in the end is the same, as what is pending now is what was left over
  have hfront : finished <+: pending := by
    rw [hfinished]
    split
    · exact List.takeWhile_prefix _
    · exact List.nil_prefix
  have hleft : notApplied s₂.versions target (m.found folder) = pending.drop finished.length :=
    notApplied_eq_drop target (pairwise_found_of_nodup hfound) hfirst hfront
  have hstart : notApplied s₃.versions target (m.found folder) = pending := by
    rw [show s₃.versions = s.versions from congrArg (fun b : Books => b.ledger.versions) h₃]
  have happlicable : m.isApplicable folder s₂ = m.isApplicable folder s₃ :=
    funext (isApplicable_congr (hunmarked₂.trans hunmarked₃.symm))
  have hresumable : ∀ x ∈ finished, m.isApplicable folder s₃ x = true := by
    intro x hx
    rw [hfinished] at hx
    split at hx
    · exact isApplicable_of_unmarked hunmarked₃ (List.mem_takeWhile_imp hx)
    · cases hx
  have hboth : pending.takeWhile (m.isApplicable folder s₃) =
      finished ++ (pending.drop finished.length).takeWhile (m.isApplicable folder s₃) := by
    obtain ⟨rest, hrest⟩ := hfront
    rw [← hrest, List.drop_left, List.takeWhile_append_of_pos hresumable]
  rw [hleft, happlicable] at hsecond
  rw [hstart, h₃, hboth] at honce
  exact hfirst.resumed hsecond honce

/-- **A run that has failed can be resumed without a trace.**  Let no two discovered files share a
version.  Then migrating a store with any records, log and failure markers, whatever comes of it, and
migrating again once the markers are cleared leaves the rows and the log that migrating without
markers leaves at once.  The clock may move in between. -/
theorem migrate_resumes (m : Migrator) (folder : Folder) (s : Store) (target : Option Version)
    (now now' : Timestamp)
    (h : ∀ found, (attempt m.table s (m.discover folder)).1 = .ok found →
      (found.map Migration.version).Nodup) :
    let twice := (m.session folder s
      [.migrate target, .clearFailures, .wait now, .migrate target]).2
    let once := (m.session folder s [.clearFailures, .wait now', .migrate target]).2
    twice.tracked.ledger.entries = once.tracked.ledger.entries ∧ twice.executed = once.executed := by
  have hfound := nodup_found_of_discovered h
  simp only [snd_session_migrate, snd_session_clearFailures, snd_session_wait, session_nil]
  refine books_of_resumed (s := s) target _ _ hfound ?_ rfl ?_ rfl
  · rw [Store.books_wait, Store.books_clearFailures]
  · rw [Store.books_wait, Store.books_clearFailures]

/-- The same of a directory of two files, where the first call fails at the second of them. -/
theorem migrate_resumes_of_failing_second :
    let m : Migrator := { directory := "migrations" }
    let folder : Folder := .ok
      [(Text.Utf8.encode "1_a.sql".toList, .file (.text "SELECT 1")),
        (Text.Utf8.encode "2_b.sql".toList, .file (.text "SELECT 2"))]
    let s : Store := { clock := ⟨⟨2024, 1, 1⟩, 0, 0, 0, 0⟩, failures := ["2"] }
    (∀ found, (attempt m.table s (m.discover folder)).1 = .ok found →
      (found.map Migration.version).Nodup) ∧
    let twice := (m.session folder s
      [.migrate none, .clearFailures, .wait s.clock, .migrate none]).2
    let once := (m.session folder s [.clearFailures, .wait s.clock, .migrate none]).2
    twice.tracked.ledger.entries = once.tracked.ledger.entries ∧ twice.executed = once.executed := by
  intro m folder s
  have hfound : m.found folder =
      [⟨1, "a", "migrations/1_a.sql", "1_a.sql"⟩, ⟨2, "b", "migrations/2_b.sql", "2_b.sql"⟩] := by
    cbv
  have hdistinct : ∀ found, (attempt m.table s (m.discover folder)).1 = .ok found →
      (found.map Migration.version).Nodup := by
    intro found hd
    rw [m.eq_found_of_discovered hd, hfound]
    decide
  exact ⟨hdistinct, migrate_resumes m folder s none s.clock s.clock hdistinct⟩

end Migrator

end SchemaKit
