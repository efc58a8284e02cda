import SchemaKit.Proofs.Resume

/-!
# What a successful run covers

A call of `migrate` without a target that succeeds records a file of every discovered version, namely
the first of it (`entries_of_migrate_ok`).  A further file of the same version is covered by no call:
the first one fails at it, and to all later ones there is nothing left to do (`migrate_of_covered`).
-/

namespace SchemaKit

/-- A front part of rows in strictly ascending order is all of them if it holds every version. -/
theorem eq_of_isPrefix_of_ascending {rows rows' : List (Int64 × String)} (h : rows <+: rows')
    (hasc : rows'.Pairwise fun a b => a.1 < b.1) (hall : ∀ e ∈ rows', e.1 ∈ rows.map Prod.fst) :
    rows = rows' := by
  obtain ⟨rest, rfl⟩ := h
  cases rest with
  | nil => exact (List.append_nil rows).symm
  | cons e rest =>
    -- the first row behind the front part has a version of the front part, and a greater one
    obtain ⟨e', he', hv⟩ := List.mem_map.mp
      (hall e (List.mem_append_right rows List.mem_cons_self))
    have hlt := (List.pairwise_append.mp hasc).2.2 e' he' e List.mem_cons_self
    rw [hv] at hlt
    exact absurd hlt Int64.lt_irrefl

namespace Migrator

open Job (attempt)
open Migration (firsts)

variable {m : Migrator} {folder : Folder} {s : Store}

/-- **What a call without a target covers**: if it succeeds, the rows are those of the first file of
each discovered version. -/
theorem entries_of_migrate_ok {l : List Migration}
    (hinitial : s.tracked.ledger.IsInitial (m.found folder))
    (h : (attempt m.table s (m.migrate folder none)).1 = .ok l) :
    (attempt m.table s (m.migrate folder none)).2.tracked.ledger.entries =
      (firsts (m.found folder)).map Migration.entry := by
  obtain ⟨-, hpending, b', journal, hr, hadds⟩ := migrate_eq_ok h
  rw [hr]
  have hfound := m.pairwise_found folder
  have hafter := (hadds.isInitial hinitial hfound
    (by rw [hpending]; exact List.prefix_refl _)).2
  refine eq_of_isPrefix_of_ascending hafter
    (List.pairwise_map.mpr (Migration.pairwise_firsts hfound)) ?_
  intro e he
  obtain ⟨x, hx, rfl⟩ := List.mem_map.mp he
  have hxfound : x ∈ m.found folder := (Migration.firsts_sublist _).subset hx
  rw [Ledger.map_fst_entries]
  refine hadds.perm_versions.mem_iff.mpr ?_
  -- its version was recorded before, or else it was pending
  by_cases hv : x.version ∈ s.versions
  · exact List.mem_append_left _ hv
  · refine List.mem_append_right _ (List.mem_map_of_mem ?_)
    rw [hpending]
    refine List.mem_filter.mpr ⟨hxfound, ?_⟩
    rw [List.contains_eq_mem, decide_eq_false hv]
    rfl

/-- A call where all is recorded has nothing to do. -/
theorem migrate_of_covered {target : Option Version} (hunmarked : s.failures = [])
    (hlisted : folder.isOk = true) (h : ∀ x ∈ m.found folder, x.version ∈ s.versions) :
    (attempt m.table s (m.migrate folder target)).1 = .ok [] := by
  have hnone : notApplied s.versions target (m.found folder) = [] := by
    refine List.filter_eq_nil_iff.mpr fun x hx => ?_
    rw [List.contains_eq_mem, decide_eq_true (h x hx)]
    exact Bool.false_ne_true
  obtain ⟨journal, hr⟩ :=
    m.attempt_migrate_of_canRead folder s target (m.canRead_of_unmarked hunmarked) hlisted
  rw [hr, hnone]
  rfl

/-- **A successful run covers every version.**  Whatever a session has done since the tracking table
was empty: if migrating without a target now succeeds, the directory can be listed, and the rows are
those of the first file of each discovered version.  So every discovered version is recorded, and
every discovered file is if no two of them share a version. -/
theorem session_migrate_covers_versions (m : Migrator) (folder : Folder) (s : Store)
    (calls : List Call) (l : List Migration) (hempty : s.tracked.ledger = ∅)
    (h : (attempt m.table (m.session folder s calls).2 (m.migrate folder none)).1 = .ok l) :
    let rows := (attempt m.table (m.session folder s calls).2
      (m.migrate folder none)).2.tracked.ledger.entries
    ∃ found, (attempt m.table s (m.discover folder)).1 = .ok found ∧
      rows = (firsts found).map Migration.entry ∧
      (∀ x ∈ found, x.version ∈ rows.map Prod.fst) ∧
      ((found.map Migration.version).Nodup → ∀ x ∈ found, x.entry ∈ rows) := by
  intro rows
  have hinitial : (m.session folder s calls).2.tracked.ledger.IsInitial (m.found folder) :=
    m.session_isInitial calls (.of_empty hempty)
  have hrows : rows = (firsts (m.found folder)).map Migration.entry :=
    entries_of_migrate_ok hinitial h
  refine ⟨m.found folder, ?_, hrows, ?_, ?_⟩
  · obtain ⟨hlisted, -⟩ := migrate_eq_ok h
    obtain ⟨journal, hd⟩ := m.attempt_discover s folder m.table
    cases folder with
    | ok es => rw [hd]
    | error why => cases hlisted
  · intro x hx
    obtain ⟨y, hy, hyx⟩ := Migration.exists_mem_firsts hx
    rw [hrows, List.map_map]
    exact List.mem_map.mpr ⟨y, hy, hyx⟩
  · intro hdistinct x hx
    rw [hrows, Migration.firsts_eq_self hdistinct]
    exact List.mem_map_of_mem hx

/-- The same of a directory of two files of versions of their own, where an earlier call has failed at
the second of them. -/
theorem session_migrate_covers_versions_of_two_files :
    let m : Migrator := { directory := "migrations" }
    let folder : Folder := .ok
      [(Text.Utf8.encode "1_a.sql".toList, .file (.text "SELECT 1")),
        (Text.Utf8.encode "2_b.sql".toList, .file (.text "SELECT 2"))]
    let s : Store := { clock := ⟨⟨2024, 1, 1⟩, 0, 0, 0, 0⟩, failures := ["SELECT 2"] }
    let calls : List Call := [.migrate none, .clearFailures]
    s.tracked.ledger = ∅ ∧ (m.session folder s calls).2.versions = [1] ∧
      ∃ l, (attempt m.table (m.session folder s calls).2 (m.migrate folder none)).1 = .ok l ∧
        let rows := (attempt m.table (m.session folder s calls).2
          (m.migrate folder none)).2.tracked.ledger.entries
        ∃ found, (attempt m.table s (m.discover folder)).1 = .ok found ∧
          rows = (firsts found).map Migration.entry ∧
          (∀ x ∈ found, x.version ∈ rows.map Prod.fst) ∧
          ((found.map Migration.version).Nodup → ∀ x ∈ found, x.entry ∈ rows) := by
  intro m folder s calls
  have hfound : m.found folder =
      [⟨1, "a", "migrations/1_a.sql", "1_a.sql"⟩, ⟨2, "b", "migrations/2_b.sql", "2_b.sql"⟩] := by
    cbv
  obtain ⟨journal, hr⟩ :=
    m.attempt_migrate_of_canRead folder s none (by decide +kernel) (by decide +kernel)
  rw [hfound] at hr
  -- what the first call leaves stays a name, and only what is recorded in it is evaluated
  generalize hp : Progress.along (m.advance folder s) s.books _ = p at hr
  have hrecorded : p.state.ledger.versions = [1] := by
    rw [← hp]
    decide +kernel
  have hbefore : (m.session folder s calls).2 = (s.holding p.state journal).clearFailures := by
    simp only [calls, snd_session_migrate, snd_session_clearFailures, session_nil, hr]
  have hversions : (m.session folder s calls).2.versions = [1] := by
    rw [hbefore]
    exact hrecorded
  have hunmarked : (m.session folder s calls).2.failures = s.clearFailures.failures := by
    rw [hbefore]
    rfl
  -- the second file is all that is pending now, and without markers it can be applied
  have happlicable : ∀ x ∈ m.found folder,
      m.isApplicable folder (m.session folder s calls).2 x = true := by
    rw [hfound]
    intro x hx
    rw [isApplicable_congr hunmarked]
    revert x
    decide +kernel
  have hok := migrate_of_applicable none (by rw [hfound]; decide)
    (m.canRead_of_unmarked hunmarked) (by decide +kernel)
    fun x hx => happlicable x (List.mem_filter.mp hx).1
  exact ⟨rfl, hversions, _, hok, session_migrate_covers_versions m folder s calls _ rfl hok⟩

/-- **A shared version is skipped in silence.**  Of two files of one version the first call applies
the one and fails at the other; the second call succeeds with nothing to do, and the other file is
discovered as before and recorded nowhere. -/
theorem second_migrate_skips_shared_version :
    let m : Migrator := { directory := "migrations" }
    let folder : Folder := .ok
      [(Text.Utf8.encode "3_a.sql".toList, .file (.text "SELECT 'a'")),
        (Text.Utf8.encode "3_b.sql".toList, .file (.text "SELECT 'b'"))]
    let s : Store := { clock := ⟨⟨2024, 1, 1⟩, 0, 0, 0, 0⟩ }
    let first := attempt m.table s (m.migrate folder none)
    let second := attempt m.table first.2 (m.migrate folder none)
    s.tracked.ledger = ∅ ∧
      first.1 = .error (.applyFailed 3 "b" [3] (.store (.duplicateVersion 3))) ∧
      second.1 = .ok [] ∧
      ∃ found, (attempt m.table s (m.discover folder)).1 = .ok found ∧
        ∃ x ∈ found, x.name = "b" ∧ x.entry ∉ second.2.tracked.ledger.entries := by
  intro m folder s
  have hfound : m.found folder =
      [⟨3, "a", "migrations/3_a.sql", "3_a.sql"⟩, ⟨3, "b", "migrations/3_b.sql", "3_b.sql"⟩] := by
    cbv
  obtain ⟨journal, hfirst⟩ := m.attempt_migrate_of_canRead folder s none rfl rfl
  rw [hfound] at hfirst
  obtain ⟨journal₀, hd⟩ := m.attempt_discover s folder m.table
  have hafter : (m.session folder s [.migrate none]).2.tracked.ledger.IsInitial (m.found folder) :=
    m.session_isInitial [.migrate none] (.of_empty rfl)
  rw [snd_session_migrate, session_nil, hfirst] at hafter
  have hsecond : (attempt m.table (attempt m.table s (m.migrate folder none)).2
      (m.migrate folder none)).1 = .ok [] := by
    rw [hfirst]
    refine migrate_of_covered rfl rfl fun x hx => ?_
    change x.version ∈ [(3 : Version)]
    rw [hfound] at hx
    revert x
    decide
  have hrows : (attempt m.table (attempt m.table s (m.migrate folder none)).2
      (m.migrate folder none)).2.tracked.ledger.entries = [(3, "a")] := by
    rw [hfirst] at hsecond ⊢
    rw [entries_of_migrate_ok hafter hsecond, hfound]
    decide
  refine ⟨rfl, (congrArg Prod.fst hfirst).trans rfl, hsecond, m.found folder, by rw [hd], ?_⟩
  rw [hrows, hfound]
  exact ⟨_, List.mem_cons_of_mem _ List.mem_cons_self, rfl, by decide⟩

end Migrator

end SchemaKit
