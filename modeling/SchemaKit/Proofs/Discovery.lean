import Mathlib
import SchemaKit.Proofs.Listing

/-!
# Discovery

Discovery takes the entries of a directory through two tests, of the extension and of the whole file
name, and sorts them twice, by name and by version.  What comes of it is said without either:
the extension never leaves out a file name that can be read, so that discovery gives a migration for
each file with such a name and for nothing else (`Migrator.listed_perm`), and in one order only,
whatever the order of the entries (`Migrator.candidates_eq_of_perm`).
-/

namespace SchemaKit.Migrator

open Job (attempt)

variable {m : Migrator} {es es' : List (EntryName × Entry)}

/-- The migration in an entry of the directory.  There is one if the entry is a file, links
followed, and its name is a text that is read as a version and a name. -/
def migration? (m : Migrator) (e : EntryName × Entry) : Option Migration :=
  if e.2.isFile then
    match Text.Utf8.decode? e.1 with
    | some file => (FileName.parse? file).map fun r => ⟨r.1, r.2, m.entryPath e.1, file⟩
    | none => none
  else none

/-! ## What is found -/

theorem toOption_ofEntry (m : Migrator) (name : EntryName) :
    (m.ofEntry name).toOption = (Text.Utf8.decode? name).bind fun file =>
      (FileName.parse? file).map fun r => ⟨r.1, r.2, m.entryPath name, file⟩ := by
  unfold ofEntry Migration.ofEntry
  cases Text.Utf8.decode? name with
  | none => rfl
  | some file =>
    simp only [Migration.ofFileName, Option.bind_some]
    cases FileName.parse? file <;> rfl

/-- Looking at the extension first makes no difference. -/
theorem migration?_eq (m : Migrator) (e : EntryName × Entry) :
    (if hasExtension e.1 && e.2.isFile then (m.ofEntry e.1).toOption else none) =
      m.migration? e := by
  -- a file name that is read has the ending, hence the extension
  have hnone : hasExtension e.1 = false → (m.ofEntry e.1).toOption = none := by
    intro hext
    rw [toOption_ofEntry, Option.bind_eq_none_iff]
    intro file hfile
    rw [Option.map_eq_none_iff]
    by_contra hread
    obtain ⟨r, hr⟩ := Option.ne_none_iff_exists'.mp hread
    rw [hasExtension_of_parse? hfile hr] at hext
    cases hext
  have hmigration : m.migration? e = if e.2.isFile then (m.ofEntry e.1).toOption else none := by
    rw [toOption_ofEntry]
    unfold migration?
    cases Text.Utf8.decode? e.1 <;> rfl
  rw [hmigration]
  cases hext : hasExtension e.1 with
  | true => rw [Bool.true_and]
  | false => simp [hnone hext]

/-- **A migration for each file** with a name that can be read, and for nothing else. -/
theorem listed_perm (m : Migrator) (es : List (EntryName × Entry)) :
    (m.listed (.ok es)).Perm (es.filterMap m.migration?) := by
  unfold listed candidates
  refine ((List.mergeSort_perm _ _).filterMap _).trans (List.Perm.of_eq ?_)
  rw [List.filterMap_map, List.filterMap_filter]
  exact List.filterMap_congr fun e _ => m.migration?_eq e

/-! ## In which order -/

theorem candidates_eq_of_perm (h : es'.Perm es) : candidates (.ok es') = candidates (.ok es) := by
  have hperm : (candidates (.ok es')).Perm (candidates (.ok es)) :=
    ((List.mergeSort_perm _ _).trans ((h.filter _).map _)).trans (List.mergeSort_perm _ _).symm
  -- no two names are of one rank, so there is only one way to sort them
  exact hperm.eq_of_pairwise (fun a b _ _ => List.le_antisymm) (pairwise_candidates _)
    (pairwise_candidates _)

/-- **Discovery loses, invents and misorders nothing.**  Whatever a directory holds, discovery gives
one migration for each file with a name that can be read, and none for any other entry; they stand
in the order of their versions, those of one version in the order of their file names in bytes; and
nothing of this, nor what is reported of other files, depends on the order in which the entries are
listed. -/
theorem discover_lists_files (m : Migrator) (es : List (EntryName × Entry)) (t : TrackingTable)
    (s : Store) : ∃ found journal,
    attempt t s (m.discover (.ok es)) = (.ok found, { s with journal }) ∧
      found.Perm (es.filterMap m.migration?) ∧ found.Pairwise Precedes ∧
      ∀ es' : List (EntryName × Entry), es'.Perm es →
        m.discover (.ok es') = m.discover (.ok es) := by
  obtain ⟨journal, hdiscover⟩ := m.attempt_discover s (.ok es) t
  refine ⟨m.found (.ok es), journal, hdiscover, found_perm_listed.trans (m.listed_perm es),
    m.precedes_found _, fun es' hperm => ?_⟩
  unfold discover
  simp only [candidates_eq_of_perm hperm]

/-- Two spellings of one version, a name with an ending of its own and one with underscores, beside
a hidden file, a name that is no text, a file without a name and a directory. -/
theorem discover_lists_files_of_odd_names :
    let m : Migrator := { directory := "migrations" }
    let s : Store := { clock := ⟨⟨2024, 1, 1⟩, 0, 0, 0, 0⟩ }
    let file : Entry := .file (.text "")
    let es : List (EntryName × Entry) := [(Text.Utf8.encode "10_b.sql".toList, file),
      (Text.Utf8.encode "3_a_1.sql".toList, file), (Text.Utf8.encode ".sql".toList, file),
      (0xFF :: Text.Utf8.encode "3_a.sql".toList, file), (Text.Utf8.encode "4_.sql".toList, file),
      (Text.Utf8.encode "5_d.sql".toList, .directory),
      (Text.Utf8.encode "003_a.sql.sql".toList, file)]
    ∃ found journal, attempt m.table s (m.discover (.ok es)) = (.ok found, { s with journal }) ∧
      found.Perm [⟨10, "b", "migrations/10_b.sql", "10_b.sql"⟩,
        ⟨3, "a_1", "migrations/3_a_1.sql", "3_a_1.sql"⟩,
        ⟨3, "a.sql", "migrations/003_a.sql.sql", "003_a.sql.sql"⟩] ∧
      found.Pairwise Precedes ∧ es.reverse.Perm es ∧
      m.discover (.ok es.reverse) = m.discover (.ok es) := by
  intro m s file es
  have hread : es.filterMap m.migration? = [⟨10, "b", "migrations/10_b.sql", "10_b.sql"⟩,
      ⟨3, "a_1", "migrations/3_a_1.sql", "3_a_1.sql"⟩,
      ⟨3, "a.sql", "migrations/003_a.sql.sql", "003_a.sql.sql"⟩] := by
    cbv
  obtain ⟨found, journal, hdiscover, hperm, horder, hsame⟩ := m.discover_lists_files es m.table s
  rw [hread] at hperm
  have hreverse : es.reverse.Perm es := es.reverse_perm
  exact ⟨found, journal, hdiscover, hperm, horder, hreverse, hsame _ hreverse⟩

end SchemaKit.Migrator
