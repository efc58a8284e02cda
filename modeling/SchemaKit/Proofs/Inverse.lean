import Mathlib
import SchemaKit.Proofs.Acceptance
import SchemaKit.Proofs.InitialSegment

/-!
# Taking back what has just been applied

Applying chooses what is not recorded, taking back chooses the highest versions.  The two agree
exactly if all that was recorded before is lower than all that is applied, since then the new records
are the last ones (`Adds.last_iff`).  So as many steps back as migrations have been applied give
their records under that condition, and not without it (`rollback_gives_iff`), and lead to the table
as it was before (`ledger_of_rollback`).
-/

namespace SchemaKit

namespace Migrator

open Job (attempt)

variable {m : Migrator} {folder : Folder} {s s' : Store} {b b' : Books} {l : List Migration}
  {target : Option Version} {x : Migration}

/-! ## Which records are the last -/

/-- **The new records are the last** exactly if all old ones are of lower versions. -/
theorem Adds.last_iff (h : m.Adds folder s b l b')
    (hl : l.Pairwise fun x y => x.version < y.version) :
    b'.ledger.records.reverse.take l.length = (l.map (Migration.recordAt s.clock)).reverse ↔
      ∀ v ∈ b.ledger.versions, ∀ x ∈ l, v < x.version := by
  set new := l.map (Migration.recordAt s.clock) with hnew
  have hrows : b'.ledger.records.Perm (b.ledger.records ++ new) := h.rows
  constructor
  · intro hlast
    -- the rest of the records are the old ones, and the whole is sorted
    obtain ⟨rest, hsplit⟩ : ∃ rest, rest ++ new = b'.ledger.records := by
      have hfront := List.take_prefix l.length b'.ledger.records.reverse
      rw [hlast] at hfront
      exact List.reverse_prefix.mp hfront
    have hold : rest.Perm b.ledger.records := by
      rw [← hsplit] at hrows
      exact (List.perm_append_right_iff new).mp hrows
    have hsorted := b'.ledger.sorted
    rw [← hsplit] at hsorted
    intro v hv x hx
    obtain ⟨a, ha, rfl⟩ := List.mem_map.mp hv
    exact (List.pairwise_append.mp hsorted).2.2 a (hold.mem_iff.mpr ha) _ (List.mem_map_of_mem hx)
  · intro hlower
    have hlength : l.length = new.reverse.length := by
      rw [List.length_reverse, hnew, List.length_map]
    rw [h.records_eq hl hlower, List.reverse_append, hlength, List.take_left]

/-! ## Taking them back -/

/-- Migrations that have just been applied ascend, and each is the first file of its version. -/
theorem pairwise_of_adds (hpending : l = notApplied s.versions target (m.found folder))
    (hadds : m.Adds folder s b l b') :
    l.Pairwise (fun x y => x.version < y.version) ∧
      ∀ x ∈ l, ((m.found folder).find? fun y => y.version = x.version) = some x := by
  have hnodup := hadds.nodup_versions
  constructor
  · rw [← Migration.firsts_eq_self hnodup, hpending]
    exact Migration.pairwise_firsts ((m.pairwise_found folder).sublist List.filter_sublist)
  · have hfront : l <+: notApplied s.versions target (m.found folder) :=
      hpending ▸ List.prefix_refl _
    exact fun x hx => find?_of_notApplied hnodup hfront hx

section Undone

variable (hunmarked : s.failures = [])
  (h : (attempt m.table s (m.migrate folder target)).1 = .ok l)
include hunmarked h

/-- Taking back as many as have just been applied gives their records exactly if these are the last
and no lower section writes to the tracking table. -/
theorem rollback_gives_iff
    (hdown : ∀ x ∈ l, ∃ body, x.downText (folder.read x.entryName) = .ok body) :
    (attempt m.table (attempt m.table s (m.migrate folder target)).2
        (m.rollback folder l.length)).1 = .ok (l.map (Migration.recordAt s.clock)).reverse ↔
      (∀ v ∈ s.versions, ∀ x ∈ l, v < x.version) ∧
        ∀ x ∈ l, ∀ body, x.downText (folder.read x.entryName) = .ok body →
          m.table.writes body = false := by
  obtain ⟨hlisted, hpending, b, journal, hr, hadds⟩ := migrate_eq_ok h
  rw [hr]
  set s' := s.holding b journal
  have hunmarked' : s'.failures = [] := hunmarked
  have hread := m.canRead_of_unmarked hunmarked'
  obtain ⟨hascending, hfirst⟩ := pairwise_of_adds hpending hadds
  have hlast : s'.tracked.ledger.records.reverse.take l.length =
      (l.map (Migration.recordAt s.clock)).reverse ↔ _ := hadds.last_iff hascending
  constructor
  · intro hgives
    have htaken := (rollback_eq_ok hgives).1.symm
    refine ⟨hlast.mp htaken, ?_⟩
    intro x hx body hbody
    -- the run has succeeded, so each of its steps has
    have hok := m.isOk_rollback folder s' l.length
    rw [hread, hlisted, Bool.and_true, Bool.true_and, hgives, htaken] at hok
    have hrevocable := List.all_eq_true.mp hok.symm (x.recordAt s.clock)
      (List.mem_reverse.mpr (List.mem_map_of_mem hx))
    rw [isRevocable_of_downText hunmarked' (hfirst x hx) hbody, Bool.not_eq_true'] at hrevocable
    exact hrevocable
  · rintro ⟨hlower, hbodies⟩
    have htaken := hlast.mpr hlower
    rw [← htaken]
    refine rollback_of_revocable hread hlisted (List.all_eq_true.mpr fun a ha => ?_)
    rw [htaken] at ha
    obtain ⟨x, hx, rfl⟩ := List.mem_map.mp (List.mem_reverse.mp ha)
    obtain ⟨body, hbody⟩ := hdown x hx
    rw [isRevocable_of_downText hunmarked' (hfirst x hx) hbody, hbodies x hx body hbody]
    rfl

omit hunmarked in
/-- If it gives them, the table is as it was. -/
theorem ledger_of_rollback
    (hgives : (attempt m.table (attempt m.table s (m.migrate folder target)).2
      (m.rollback folder l.length)).1 = .ok (l.map (Migration.recordAt s.clock)).reverse) :
    (attempt m.table (attempt m.table s (m.migrate folder target)).2
      (m.rollback folder l.length)).2.tracked.ledger = s.tracked.ledger := by
  obtain ⟨-, hpending, b, journal, hr, hadds⟩ := migrate_eq_ok h
  obtain ⟨htaken, plan, -, hremoves⟩ := rollback_eq_ok hgives
  rw [hr] at htaken hremoves ⊢
  have hascending := (pairwise_of_adds hpending hadds).1
  have hlower := (hadds.last_iff hascending).mp htaken.symm
  have hrows := hremoves.rows
  rw [List.reverse_reverse] at hrows
  exact Ledger.ext (List.append_cancel_right (hrows.trans (hadds.records_eq hascending hlower)))

end Undone

/-- **When a rollback undoes a run.**  Let no failure marker be set, let migrating a table with any
records succeed, and let each of the migrations applied have a lower section.  Then taking back as
many of them gives their records, last first, exactly if all that was recorded before is of lower
versions than all that was applied, and none of the lower sections is one of the two texts by which
the tracking table is written to.  If it does, the table is as it was before. -/
theorem rollback_undoes_migrate_iff (m : Migrator) (folder : Folder) (s : Store)
    (target : Option Version) (l : List Migration) (hunmarked : s.failures = [])
    (h : (attempt m.table s (m.migrate folder target)).1 = .ok l)
    (hdown : ∀ x ∈ l, ∃ body, x.downText (folder.read x.entryName) = .ok body) :
    let s' := (attempt m.table s (m.migrate folder target)).2
    let r := attempt m.table s' (m.rollback folder l.length)
    (r.1 = .ok (l.map (Migration.recordAt s.clock)).reverse ↔
      (∀ v ∈ s.versions, ∀ x ∈ l, v < x.version) ∧
        ∀ x ∈ l, ∀ body, x.downText (folder.read x.entryName) = .ok body →
          m.table.writes body = false) ∧
      (r.1 = .ok (l.map (Migration.recordAt s.clock)).reverse →
        r.2.tracked.ledger = s.tracked.ledger) :=
  ⟨rollback_gives_iff hunmarked h hdown, ledger_of_rollback h⟩

/-- The same of a run that applies the second of two files. -/
theorem rollback_undoes_migrate_iff_of_second_file :
    let m : Migrator := { directory := "migrations" }
    let folder : Folder := .ok
      [(Text.Utf8.encode "1_a.sql".toList, .file (.text "SELECT 1")),
        (Text.Utf8.encode "2_b.sql".toList, .file (.text "-- UP\nSELECT 2\n-- DOWN\nSELECT 20"))]
    let s := ({ clock := ⟨⟨2024, 1, 1⟩, 0, 0, 0, 0⟩ } : Store).seed 1 "a"
    let l : List Migration := [⟨2, "b", "migrations/2_b.sql", "2_b.sql"⟩]
    let s' := (attempt m.table s (m.migrate folder none)).2
    let r := attempt m.table s' (m.rollback folder l.length)
    s.failures = [] ∧ (attempt m.table s (m.migrate folder none)).1 = .ok l ∧
      (∀ x ∈ l, ∃ body, x.downText (folder.read x.entryName) = .ok body) ∧
      (r.1 = .ok (l.map (Migration.recordAt s.clock)).reverse ↔
        (∀ v ∈ s.versions, ∀ x ∈ l, v < x.version) ∧
          ∀ x ∈ l, ∀ body, x.downText (folder.read x.entryName) = .ok body →
            m.table.writes body = false) ∧
      (r.1 = .ok (l.map (Migration.recordAt s.clock)).reverse →
        r.2.tracked.ledger = s.tracked.ledger) := by
  intro m folder s l
  have hfound : m.found folder =
      [⟨1, "a", "migrations/1_a.sql", "1_a.sql"⟩, ⟨2, "b", "migrations/2_b.sql", "2_b.sql"⟩] := by
    cbv
  have hok : (attempt m.table s (m.migrate folder none)).1 = .ok l := by
    obtain ⟨journal, hr⟩ :=
      m.attempt_migrate_of_canRead folder s none (m.canRead_of_unmarked rfl) rfl
    rw [hfound] at hr
    rw [hr]
    rfl
  have hdown : ∀ x ∈ l, ∃ body, x.downText (folder.read x.entryName) = .ok body := by
    intro x hx
    obtain rfl := List.mem_singleton.mp hx
    exact ⟨"SELECT 20", by cbv⟩
  exact ⟨rfl, hok, hdown, rollback_undoes_migrate_iff m folder s none l rfl hok hdown⟩

/-- **Neither condition can be left out.**  Over a table that holds version 2 alone, version 1 is
applied, but taking one back does not give its record.  And a lower section that reads as the text by
which a version is forgotten cannot be run. -/
theorem rollback_misses_migrate :
    let m : Migrator := { directory := "migrations" }
    let folder : Folder := .ok
      [(Text.Utf8.encode "1_a.sql".toList, .file (.text "-- UP\nSELECT 1\n-- DOWN\nSELECT 10")),
        (Text.Utf8.encode "3_c.sql".toList, .file (.text
          "-- UP\nSELECT 3\n-- DOWN\nDELETE FROM schema_migrations WHERE version = $1"))]
    let s := ({ clock := ⟨⟨2024, 1, 1⟩, 0, 0, 0, 0⟩ } : Store).seed 2 "b"
    let a : Migration := ⟨1, "a", "migrations/1_a.sql", "1_a.sql"⟩
    let c : Migration := ⟨3, "c", "migrations/3_c.sql", "3_c.sql"⟩
    let low := attempt m.table s (m.migrate folder (some 1))
    let empty : Store := { clock := s.clock }
    let all := attempt m.table empty (m.migrate folder none)
    (a.downText (folder.read a.entryName) = .ok "SELECT 10" ∧
        c.downText (folder.read c.entryName) = .ok m.table.deleteText) ∧
      (s.failures = [] ∧ s.versions = [2] ∧ low.1 = .ok [a] ∧
        (attempt m.table low.2 (m.rollback folder 1)).1 ≠ .ok [a.recordAt s.clock]) ∧
      (empty.failures = [] ∧ all.1 = .ok [a, c] ∧
        (attempt m.table all.2 (m.rollback folder 2)).1 ≠
          .ok [c.recordAt s.clock, a.recordAt s.clock]) := by
  intro m folder s a c low empty all
  have hfound : m.found folder =
      [⟨1, "a", "migrations/1_a.sql", "1_a.sql"⟩, ⟨3, "c", "migrations/3_c.sql", "3_c.sql"⟩] := by
    cbv
  have hlow : (attempt m.table s (m.migrate folder (some 1))).1 = .ok [a] := by
    obtain ⟨journal, hr⟩ := m.attempt_migrate_of_canRead folder s (some 1)
      (m.canRead_of_unmarked rfl) rfl
    rw [hfound] at hr
    rw [hr]
    rfl
  have hall : (attempt m.table empty (m.migrate folder none)).1 = .ok [a, c] := by
    obtain ⟨journal, hr⟩ := m.attempt_migrate_of_canRead folder empty none
      (m.canRead_of_unmarked rfl) rfl
    rw [hfound] at hr
    rw [hr]
    rfl
  have ha : a.downText (folder.read a.entryName) = .ok "SELECT 10" := by cbv
  have hc : c.downText (folder.read c.entryName) = .ok m.table.deleteText := by cbv
  have hdown : ∀ x ∈ [a, c], ∃ body, x.downText (folder.read x.entryName) = .ok body :=
    List.forall_mem_cons.mpr ⟨⟨_, ha⟩, List.forall_mem_singleton.mpr ⟨_, hc⟩⟩
  refine ⟨⟨ha, hc⟩, ⟨rfl, rfl, hlow, fun hgives => ?_⟩, rfl, hall, fun hgives => ?_⟩
  · have hiff := rollback_gives_iff rfl hlow (List.forall_mem_singleton.mpr ⟨_, ha⟩)
    have hlower := (hiff.mp hgives).1 2 (List.mem_singleton_self _) a (List.mem_singleton_self _)
    exact absurd hlower (by decide)
  · have hbodies := ((rollback_gives_iff rfl hall hdown).mp hgives).2
    exact absurd (hbodies c (by decide) _ hc) (by decide)

end Migrator

end SchemaKit
