import Mathlib
import SchemaKit.Proofs.Acceptance
import SchemaKit.Proofs.Listing
import SchemaKit.Proofs.Session

/-!
# Where records come from

A directory may grow between the calls of a session.  Every record then has an origin: a call of
`migrate` that has applied a file, with the record there ever since (`exists_origin`).  Taking the
record back runs the first file that the directory holds of its version by then.  That is the file
the record comes from, unless one that comes before it has been added in between (`first_of_origin`).
-/

namespace SchemaKit

/-- What happens over time: a call is made, or a file is added to the directory. -/
inductive Move where
  | call (c : Call)
  | add (name : EntryName) (entry : Entry)

/-- A directory and a store, as they are at one moment. -/
structure Site where
  folder : Folder
  store : Store

namespace Site

def records (p : Site) : List Applied :=
  p.store.tracked.ledger.records

def found (m : Migrator) (p : Site) : List Migration :=
  m.found p.folder

end Site

namespace Migrator

open Job (attempt)

variable (m : Migrator)

def move (p : Site) : Move → Site
  | .call c => { p with store := (m.call p.folder p.store c).2 }
  | .add name entry => { p with folder := p.folder.add name entry }

/-- The site after moves one after the other. -/
def after (p : Site) (moves : List Move) : Site :=
  moves.foldl m.move p

@[simp] theorem after_nil (p : Site) : m.after p [] = p := rfl

theorem after_append (p : Site) (before rest : List Move) :
    m.after p (before ++ rest) = m.after (m.after p before) rest :=
  List.foldl_append

theorem after_concat (p : Site) (moves : List Move) (next : Move) :
    m.after p (moves ++ [next]) = m.move (m.after p moves) next :=
  List.foldl_concat ..

/-! ## Origins -/

/-- A call of `migrate` up to a target applies a migration: the call reports it among others, from
the front of what is pending, and leaves what applying these leaves. -/
def Applies (p : Site) (target : Option Version) (y : Migration) : Prop :=
  ∃ finished, y ∈ finished ∧
    finished <+: notApplied p.store.versions target (p.found m) ∧
    reportedApplied (attempt m.table p.store (m.migrate p.folder target)).1 =
      finished.map Migration.version ∧
    m.Adds p.folder p.store p.store.books finished
      (attempt m.table p.store (m.migrate p.folder target)).2.books

/-- **The origin of a record**, as of some moves: after the first of them a call of `migrate` has
applied the file, the record is the one made for it, of a version that was not recorded, and it has
been in the table ever since. -/
structure IsOrigin (start : Site) (moves : List Move) (a : Applied) (before : List Move)
    (y : Migration) : Prop where
  record : a = y.recordAt (m.after start before).store.clock
  new : a.version ∉ (m.after start before).store.versions
  since : ∃ target rest, moves = before ++ .call (.migrate target) :: rest ∧
    m.Applies (m.after start before) target y ∧
    ∀ part, part <+: rest →
      a ∈ (m.after start (before ++ .call (.migrate target) :: part)).records

variable {m} {p start : Site} {moves before : List Move} {next : Move} {a : Applied}
  {x y : Migration} {target : Option Version}

/-- A file that is applied is the first of its version. -/
theorem Applies.find? (h : m.Applies p target y) :
    ((p.found m).find? fun x => x.version = y.version) = some y := by
  obtain ⟨finished, hy, hfront, -, hadds⟩ := h
  exact find?_of_notApplied hadds.nodup_versions hfront hy

/-- **One move**: a record was there before, or it is that of a file that the move has applied. -/
theorem record_of_move (ha : a ∈ (m.move p next).records) :
    a ∈ p.records ∨ ∃ target y, next = .call (.migrate target) ∧ m.Applies p target y ∧
      a = y.recordAt p.store.clock ∧ a.version ∉ p.store.versions := by
  cases next with
  | add name entry => exact .inl ha
  | call c =>
    cases c with
    | migrate target =>
      obtain ⟨finished, hfront, hreported, hadds⟩ := m.migrate_reports p.folder p.store target
      have hnodup := hadds.perm_versions.nodup_iff.mp (Ledger.nodup_versions _)
      rcases List.mem_append.mp (hadds.rows.mem_iff.mp ha) with hold | hnew
      · exact .inl hold
      · obtain ⟨y, hy, rfl⟩ := List.mem_map.mp hnew
        refine .inr ⟨target, y, rfl, ⟨finished, hy, hfront, hreported, hadds⟩, rfl, fun hv => ?_⟩
        exact (List.nodup_append.mp hnodup).2.2 _ hv _ (List.mem_map_of_mem hy) rfl
    | rollback n =>
      obtain ⟨as, downs, -, hremoves⟩ := m.rollback_reports p.folder p.store n
      have hrows : _ = p.records := hremoves.rows
      exact .inl (hrows ▸ List.mem_append_left _ ha)
    | failOn marker => exact .inl ha
    | clearFailures => exact .inl ha
    | wait now => exact .inl ha

/-- A record that is still there keeps its origin. -/
theorem IsOrigin.concat (h : m.IsOrigin start moves a before y)
    (ha : a ∈ (m.after start (moves ++ [next])).records) :
    m.IsOrigin start (moves ++ [next]) a before y := by
  obtain ⟨target, rest, rfl, happlies, hsince⟩ := h.since
  refine ⟨h.record, h.new, target, rest ++ [next], ?_, happlies, fun part hpart => ?_⟩
  · rw [List.append_assoc, List.cons_append]
  · rcases List.prefix_concat_iff.mp hpart with rfl | hpart
    · rw [List.append_assoc, List.cons_append] at ha
      exact ha
    · exact hsince part hpart

/-- **Every record has an origin** if the table was empty at the start. -/
theorem exists_origin (hempty : start.store.tracked.ledger = ∅)
    (ha : a ∈ (m.after start moves).records) :
    ∃ before y, m.IsOrigin start moves a before y := by
  induction moves using List.reverseRecOn with
  | nil =>
    have hnone : start.records = [] := congrArg Ledger.records hempty
    rw [after_nil, hnone] at ha
    cases ha
  | append_singleton moves next ih =>
    have hafter := ha
    rw [after_concat] at hafter
    rcases record_of_move hafter with hold | ⟨target, y, rfl, happlies, hrecord, hnew⟩
    · obtain ⟨before, y, horigin⟩ := ih hold
      exact ⟨before, y, horigin.concat ha⟩
    · refine ⟨moves, y, hrecord, hnew, target, [], rfl, happlies, fun part hpart => ?_⟩
      rw [List.prefix_nil.mp hpart]
      exact ha

/-! ## Growth -/

theorem mem_found_move (h : x ∈ p.found m) : x ∈ (m.move p next).found m := by
  cases next with
  | call c => exact h
  | add name entry => exact mem_found_add name entry h

/-- What has been discovered is discovered ever after. -/
theorem mem_found_after (h : x ∈ p.found m) : x ∈ (m.after p moves).found m := by
  induction moves generalizing p with
  | nil => exact h
  | cons next rest ih => exact ih (mem_found_move h)

/-- Its file reads the same ever after. -/
theorem read_after (h : x ∈ p.found m) :
    (m.after p moves).folder.read x.entryName = p.folder.read x.entryName := by
  induction moves generalizing p with
  | nil => rfl
  | cons next rest ih =>
    refine (ih (mem_found_move h)).trans ?_
    cases next with
    | call c => rfl
    | add name entry => exact read_add name entry (mem_found_iff.mp h).1

theorem IsOrigin.mem_found (h : m.IsOrigin start moves a before y) :
    y ∈ (m.after start before).found m := by
  obtain ⟨target, rest, -, happlies, -⟩ := h.since
  exact List.mem_of_find?_eq_some happlies.find?

theorem IsOrigin.after_eq (h : m.IsOrigin start moves a before y) :
    ∃ rest, m.after start moves = m.after (m.after start before) rest := by
  obtain ⟨target, rest, rfl, -, -⟩ := h.since
  exact ⟨_, m.after_append start before _⟩

/-- **The first file of a record's version** is the one the record comes from, or one that comes
before it and has been added since. -/
theorem first_of_origin (h : m.IsOrigin start moves a before y)
    (hx : (((m.after start moves).found m).find? fun x => x.version = a.version) = some x) :
    x = y ∨ (x ∉ (m.after start before).found m ∧ x.version = y.version ∧
      x.entryName < y.entryName) := by
  have hay : a.version = y.version := congrArg Applied.version h.record
  have hxy : x.version = y.version := (version_of_find? hx).trans hay
  have hy := h.mem_found
  obtain ⟨rest, hrest⟩ := h.after_eq
  -- the file it comes from is still there, so the first does not come behind it
  have hy' : y ∈ (m.after start moves).found m := hrest ▸ mem_found_after hy
  have hle : x.entryName ≤ y.entryName := entryName_le_of_find? hx hy' hay.symm
  by_cases hthen : x ∈ (m.after start before).found m
  · -- the first by now was there, and was not first by then unless it is the same
    obtain ⟨target, _, -, happlies, -⟩ := h.since
    have hge : y.entryName ≤ x.entryName := entryName_le_of_find? happlies.find? hthen hxy
    exact .inl (eq_of_entryName hthen hy (List.le_antisymm hle hge))
  · refine .inr ⟨hthen, hxy, ?_⟩
    rcases List.le_iff_lt_or_eq.mp hle with hlt | heq
    · exact hlt
    · exact absurd (eq_of_entryName (List.mem_of_find?_eq_some hx) hy' heq ▸ hy) hthen

/-! ## What is run -/

/-- **Taking back runs the first file of the version.**  Start with an empty tracking table, make any
calls, and let files be added to the directory at any time between them.  Then a rollback, whatever
comes of it, takes each record it reports back by the lower section of the first file, by name, that
the directory then holds of the record's version, and these texts are all that it adds to the log.
That file is the very one whose application created the record, and reads as it did then, unless a
file of the same version whose name comes before has been added since. -/
theorem rollback_runs_first_file (m : Migrator) (start : Site) (moves : List Move) (n : Nat)
    (h : start.store.tracked.ledger = ∅) :
    let now := m.after start moves
    let r := attempt m.table now.store (m.rollback now.folder n)
    ∃ steps : List Step,
      reportedRevoked r.1 = (steps.map Step.record).map Applied.version ∧
      m.Removes now.store.books (steps.map Step.record) (steps.map Step.down) r.2.books ∧
      ∀ st ∈ steps,
        ((now.found m).find? fun x => x.version = st.record.version) = some st.migration ∧
        (∃ text, now.folder.read st.migration.entryName = .ok text ∧
          Section.extract .down text = some st.down ∧ st.down ≠ "") ∧
        ∃ before y, m.IsOrigin start moves st.record before y ∧
          now.folder.read y.entryName = (m.after start before).folder.read y.entryName ∧
          (st.migration = y ∨
            (st.migration ∉ (m.after start before).found m ∧
              st.migration.version = y.version ∧ st.migration.entryName < y.entryName)) := by
  intro now r
  obtain ⟨steps, hsteps, hreported, hremoves⟩ := m.rollback_steps now.folder now.store n
  refine ⟨steps, hreported, hremoves, fun st hst => ?_⟩
  obtain ⟨-, hfirst, hdown⟩ := step_eq_ok (hsteps st hst)
  refine ⟨hfirst, section_of_lookUp hfirst hdown, ?_⟩
  have hrecord : st.record ∈ now.records := by
    have hrows : _ = now.records := hremoves.rows
    rw [← hrows]
    exact List.mem_append_right _ (List.mem_reverse.mpr (List.mem_map_of_mem hst))
  obtain ⟨before, y, horigin⟩ := exists_origin h hrecord
  refine ⟨before, y, horigin, ?_, first_of_origin horigin hfirst⟩
  obtain ⟨rest, hrest⟩ := horigin.after_eq
  exact (congrArg (fun p : Site => p.folder.read y.entryName) hrest).trans
    (read_after horigin.mem_found)

/-- The same where a file has been added that comes before the one applied. -/
theorem rollback_runs_first_file_of_added_file :
    let m : Migrator := { directory := "migrations" }
    let folder : Folder := .ok [(Text.Utf8.encode "3_b.sql".toList,
      .file (.text "-- UP\nSELECT 1\n-- DOWN\nSELECT 10"))]
    let start : Site := ⟨folder, { clock := ⟨⟨2024, 1, 1⟩, 0, 0, 0, 0⟩ }⟩
    let moves : List Move := [.call (.migrate none), .add (Text.Utf8.encode "003_a.sql".toList)
      (.file (.text "-- UP\nSELECT 2\n-- DOWN\nSELECT 20"))]
    start.store.tracked.ledger = ∅ ∧
      let now := m.after start moves
      let r := attempt m.table now.store (m.rollback now.folder 1)
      ∃ steps : List Step,
        reportedRevoked r.1 = (steps.map Step.record).map Applied.version ∧
        m.Removes now.store.books (steps.map Step.record) (steps.map Step.down) r.2.books ∧
        ∀ st ∈ steps,
          ((now.found m).find? fun x => x.version = st.record.version) = some st.migration ∧
          (∃ text, now.folder.read st.migration.entryName = .ok text ∧
            Section.extract .down text = some st.down ∧ st.down ≠ "") ∧
          ∃ before y, m.IsOrigin start moves st.record before y ∧
            now.folder.read y.entryName = (m.after start before).folder.read y.entryName ∧
            (st.migration = y ∨
              (st.migration ∉ (m.after start before).found m ∧
                st.migration.version = y.version ∧ st.migration.entryName < y.entryName)) :=
  ⟨rfl, rollback_runs_first_file _ _ _ _ rfl⟩

set_option maxRecDepth 1500 in
/-- **An added file can take the place of an applied one.**  Version 3 is applied from the one file
of it, then another is added that comes before it: taking the record back runs the lower section of
the file added. -/
theorem rollback_runs_added_file :
    let m : Migrator := { directory := "migrations" }
    let folder : Folder := .ok [(Text.Utf8.encode "3_b.sql".toList,
      .file (.text "-- UP\nSELECT 1\n-- DOWN\nSELECT 10"))]
    let s : Store := { clock := ⟨⟨2024, 1, 1⟩, 0, 0, 0, 0⟩ }
    let moves : List Move := [.call (.migrate none), .add (Text.Utf8.encode "003_a.sql".toList)
      (.file (.text "-- UP\nSELECT 2\n-- DOWN\nSELECT 20"))]
    let now := m.after ⟨folder, s⟩ moves
    let r := attempt m.table now.store (m.rollback now.folder 1)
    s.tracked.ledger = ∅ ∧ now.records = [⟨3, "b", s.clock⟩] ∧
      now.store.executed = [⟨"SELECT 1", []⟩] ∧ r.1 = .ok [⟨3, "b", s.clock⟩] ∧
      r.2.executed = [⟨"SELECT 1", []⟩, ⟨"SELECT 20", []⟩] := by
  intro m folder s moves now r
  -- the call applies the one file
  have hfound : m.found folder = [⟨3, "b", "migrations/3_b.sql", "3_b.sql"⟩] := by cbv
  have hok : (attempt m.table s (m.migrate folder none)).1 =
      .ok [⟨3, "b", "migrations/3_b.sql", "3_b.sql"⟩] := by
    obtain ⟨journal, hr⟩ :=
      m.attempt_migrate_of_canRead folder s none (m.canRead_of_unmarked rfl) rfl
    rw [hfound] at hr
    rw [hr]
    rfl
  obtain ⟨-, -, b, journal, hr, hadds⟩ := migrate_eq_ok hok
  have hrecords : b.ledger.records = [⟨3, "b", s.clock⟩] :=
    hadds.records_eq (List.pairwise_singleton _ _) (List.forall_mem_nil _)
  have hlog : b.log = [⟨"SELECT 1", []⟩] := by
    obtain ⟨texts, htexts, hlog⟩ := hadds.log
    have hup : scriptOf folder ⟨3, "b", "migrations/3_b.sql", "3_b.sql"⟩ = .ok "SELECT 1" := by cbv
    rw [List.mapM_cons, hup] at htexts
    obtain rfl := Except.ok.inj htexts
    rw [hlog]
    rfl
  -- the rollback finds the file added
  let grown : Folder := .ok [(Text.Utf8.encode "3_b.sql".toList,
      .file (.text "-- UP\nSELECT 1\n-- DOWN\nSELECT 10")),
    (Text.Utf8.encode "003_a.sql".toList,
      .file (.text "-- UP\nSELECT 2\n-- DOWN\nSELECT 20"))]
  have hnow : now = ⟨grown, s.holding b journal⟩ := congrArg (fun r => (⟨_, r.2⟩ : Site)) hr
  have hgrown : m.found grown = [⟨3, "a", "migrations/003_a.sql", "003_a.sql"⟩,
      ⟨3, "b", "migrations/3_b.sql", "3_b.sql"⟩] := by
    cbv
  have hx : ((m.found grown).find? fun x => x.version = 3) =
      some ⟨3, "a", "migrations/003_a.sql", "003_a.sql"⟩ := by
    rw [hgrown]
    rfl
  have hdown : (⟨3, "a", "migrations/003_a.sql", "003_a.sql"⟩ : Migration).downText
      (grown.read (Migration.entryName ⟨3, "a", "migrations/003_a.sql", "003_a.sql"⟩)) =
        .ok "SELECT 20" := by
    cbv
  obtain ⟨hgives, hremoves⟩ := rollback_last (s := s.holding b journal) rfl rfl
    (hrecords.trans (List.nil_append _).symm) hx hdown (by decide)
  have hexecuted : (attempt m.table (s.holding b journal) (m.rollback grown 1)).2.executed =
      [⟨"SELECT 1", []⟩, ⟨"SELECT 20", []⟩] := by
    refine hremoves.log.trans ?_
    rw [Store.books_holding, hlog]
    rfl
  have hrun : r = attempt m.table (s.holding b journal) (m.rollback grown 1) :=
    congrArg (fun p : Site => attempt m.table p.store (m.rollback p.folder 1)) hnow
  rw [hrun, hnow]
  exact ⟨rfl, hrecords, hlog, hgives, hexecuted⟩

end Migrator

end SchemaKit
