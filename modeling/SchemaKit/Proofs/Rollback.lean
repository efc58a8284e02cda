import SchemaKit.Proofs.Ledger
import SchemaKit.Proofs.Progress
import SchemaKit.Proofs.Reading
import SchemaKit.Proofs.WorkRules

/-!
# Taking back

A run of `rollback` looks everything up before it changes anything, and is then progress along what
it has found: each record is taken out of the books in one transaction (`Migrator.retreat`).  What
is left behind is always what the finished ones alone leave (`Migrator.Removes`).
-/

namespace SchemaKit

namespace Migrator

open Job (attempt attempt_bind_of_ok attempt_bind_of_error)

variable (m : Migrator) (folder : Folder) (s : Store)

/-! ## Looking up -/

/-- What takes a record back: the lower section of the first file found of its version.  There is
none if there is no such file, if it cannot be read, or if the section is missing or blank. -/
def lookUp (found : List Migration) (a : Applied) : Except MigrationError String :=
  match found.find? fun x => x.version = a.version with
  | none => .error (.missingFile a.version)
  | some x =>
    match folder.read x.entryName with
    | .error why => .error (.file x.path why)
    | .ok text =>
      match Section.extract .down text with
      | none => .error (.missingDown x.version x.name)
      | some body =>
        if body = "" then .error (.missingDown x.version x.name) else .ok body

variable {folder} {found : List Migration} {a : Applied} {x : Migration}

theorem step_of_find?_none (hx : (found.find? fun x => x.version = a.version) = none) :
    step folder found a = .error (.missingFile a.version) := by
  simp only [step, hx]
  rfl

theorem downText_of_read (x : Migration) (text : String) :
    x.downText (.ok text) =
      match Section.extract .down text with
      | none => .error (.missingDown x.version x.name)
      | some body =>
        if body = "" then .error (.missingDown x.version x.name) else .ok body := by
  have hbody : x.downText (.ok text) =
      (Section.downBody? text).elim (.error (.missingDown x.version x.name)) .ok := by
    have htext : x.text (.ok text) = .ok text := rfl
    unfold Migration.downText
    simp only [htext, bind, Except.bind]
    cases Section.downBody? text <;> rfl
  rw [hbody]
  unfold Section.downBody?
  cases Section.extract .down text with
  | none => rfl
  | some body => by_cases hb : body = "" <;> simp [Option.filter_some, hb]

theorem step_of_find?_some (hx : (found.find? fun x => x.version = a.version) = some x) :
    step folder found a = (lookUp folder found a).map fun down => ⟨a, x, down⟩ := by
  have hstep : step folder found a =
      (x.downText (folder.read x.entryName)).map fun down => ⟨a, x, down⟩ := by
    simp only [step, hx]
    cases x.downText (folder.read x.entryName) <;> rfl
  rw [hstep]
  simp only [lookUp, hx]
  cases folder.read x.entryName with
  | error why => rfl
  | ok text => rw [downText_of_read]

theorem step_of_downText {down : String}
    (hx : (found.find? fun x => x.version = a.version) = some x)
    (hdown : x.downText (folder.read x.entryName) = .ok down) :
    step folder found a = .ok ⟨a, x, down⟩ := by
  simp only [step, hx, hdown]
  rfl

/-- A step that is planned is a record with the first file of its version and what takes it back. -/
theorem step_eq_ok {st : Step} (h : step folder found a = .ok st) :
    st.record = a ∧ (found.find? fun x => x.version = a.version) = some st.migration ∧
      lookUp folder found a = .ok st.down := by
  cases hx : found.find? fun x => x.version = a.version with
  | none =>
    rw [step_of_find?_none hx] at h
    cases h
  | some x =>
    rw [step_of_find?_some hx] at h
    cases hl : lookUp folder found a with
    | error e =>
      rw [hl] at h
      cases h
    | ok down =>
      rw [hl] at h
      obtain rfl : ⟨a, x, down⟩ = st := Except.ok.inj h
      exact ⟨rfl, rfl, rfl⟩

/-- Planning a step is looking up what takes the record back. -/
theorem map_down_step (folder : Folder) (found : List Migration) (a : Applied) :
    (step folder found a).map Step.down = lookUp folder found a := by
  cases hx : found.find? fun x => x.version = a.version with
  | none =>
    rw [step_of_find?_none hx]
    simp only [lookUp, hx]
    rfl
  | some x =>
    rw [step_of_find?_some hx]
    cases lookUp folder found a <;> rfl

/-- What takes a record back is the lower section of the first file of its version, and not blank. -/
theorem section_of_lookUp {down : String}
    (hx : (found.find? fun x => x.version = a.version) = some x)
    (h : lookUp folder found a = .ok down) :
    ∃ text, folder.read x.entryName = .ok text ∧ Section.extract .down text = some down ∧
      down ≠ "" := by
  simp only [lookUp, hx] at h
  cases hread : folder.read x.entryName with
  | error why =>
    rw [hread] at h
    cases h
  | ok text =>
    cases hbody : Section.extract .down text with
    | none =>
      simp only [hread, hbody] at h
      cases h
    | some body =>
      simp only [hread, hbody] at h
      by_cases hblank : body = ""
      · rw [if_pos hblank] at h
        cases h
      · rw [if_neg hblank] at h
        obtain rfl := Except.ok.inj h
        exact ⟨text, rfl, hbody, hblank⟩

theorem step_of_mem_plan {as : List Applied} {plan : List Step} {st : Step}
    (h : as.mapM (step folder found) = .ok plan) (hst : st ∈ plan) :
    step folder found st.record = .ok st := by
  have hall := forall₂_of_mapM h
  clear h
  induction hall with
  | nil => cases hst
  | cons ha _ ih =>
    rcases List.mem_cons.mp hst with rfl | hst
    · rw [(step_eq_ok ha).1]
      exact ha
    · exact ih hst

theorem records_of_plan {as : List Applied} {plan : List Step}
    (h : as.mapM (step folder found) = .ok plan) : plan.map Step.record = as := by
  have hall := forall₂_of_mapM h
  clear h
  induction hall with
  | nil => rfl
  | cons ha _ ih => rw [List.map_cons, ih, (step_eq_ok ha).1]

/-- A plan has the records it was made for, and each step has the first file of its version. -/
theorem plan_of_mapM {as : List Applied} {plan : List Step}
    (h : as.mapM (step folder found) = .ok plan) :
    plan.map Step.record = as ∧ ∀ st ∈ plan,
      (found.find? fun x => x.version = st.record.version) = some st.migration ∧
        st.down ≠ "" := by
  refine ⟨records_of_plan h, fun st hst => ?_⟩
  obtain ⟨-, hx, hdown⟩ := step_eq_ok (step_of_mem_plan h hst)
  obtain ⟨text, -, -, hne⟩ := section_of_lookUp hx hdown
  exact ⟨hx, hne⟩

theorem isEarly_of_lookUp {e : MigrationError} (h : lookUp folder found a = .error e) :
    e.IsEarly := by
  unfold lookUp at h
  split at h
  · cases h
    trivial
  · split at h
    · cases h
      trivial
    · split at h
      · cases h
        trivial
      · split at h
        · cases h
          trivial
        · cases h

theorem isEarly_of_mapM {as : List Applied} {e : MigrationError}
    (h : as.mapM (step folder found) = .error e) : e.IsEarly := by
  obtain ⟨before, a, after, rfl, -, ha⟩ := split_of_mapM_error h
  have hlook := map_down_step folder found a
  rw [ha] at hlook
  exact isEarly_of_lookUp hlook.symm

/-! ## One record -/

variable (folder)

/-- What the transaction that takes a version back does to books: it runs what takes it back and
forgets the version. -/
def leave (version : Version) (down : String) (b : Books) : Except StoreError Books := do
  let b ← Books.script m.table s down b
  Books.forget m.table s version b

def retreat (b : Books) (st : Step) : Except StoreError Books :=
  m.leave s st.migration.version st.down b

theorem does_forgetVersion (version : Version) :
    Work.Does m.table s (m.forgetVersion version) (Books.forget m.table s version) :=
  ((Work.does_tell _).bind fun _ => (Work.does_forget version).discard).congr fun b =>
    pure_bind b _

theorem does_revokeWork (x : Migration) {down : String} (h : down ≠ "") :
    Work.Does m.table s (m.revokeWork x down) (m.leave s x.version down) :=
  (Work.does_script h).bind fun _ => m.does_forgetVersion s x.version

/-- **One record**: the store has the books that taking it back leads to, or those it had. -/
theorem attempt_revoke (st : Step) (h : st.down ≠ "") (b : Books) (journal : List Event) :
    ∃ journal', attempt m.table (s.holding b journal)
        (Job.transaction id (m.revokeWork st.migration st.down)) =
      match m.retreat s b st with
      | .ok b' => (.ok (), s.holding b' journal')
      | .error why => (.error why, s.holding b journal') := by
  obtain ⟨journal', ht⟩ := (m.does_revokeWork s st.migration h).transact b journal
  refine ⟨journal', ?_⟩
  rw [Job.attempt_transaction, ht]
  unfold retreat
  cases m.leave s st.migration.version st.down b <;> rfl

/-! ## A run -/

/-- What a run of taking back gives when it has come so far. -/
def revokedOutcome (finished : List Applied) (p : Progress Step Books StoreError) :
    Except MigrationError (List Applied) :=
  match p.stop with
  | none => .ok (finished ++ p.finished.map Step.record)
  | some (st, why) => .error (.rollbackFailed st.migration.version st.migration.name
      ((finished ++ p.finished.map Step.record).map Applied.version) why)

/-- **A run** is progress along the steps of a plan. -/
theorem attempt_revokeAll (finished : List Applied) (plan : List Step)
    (h : ∀ st ∈ plan, st.down ≠ "") (b : Books) (journal : List Event) :
    ∃ journal', attempt m.table (s.holding b journal) (m.revokeAll finished plan) =
      (revokedOutcome finished (Progress.along (m.retreat s) b plan),
        s.holding (Progress.along (m.retreat s) b plan).state journal') := by
  induction plan generalizing finished b journal with
  | nil => exact ⟨journal, by simp [revokeAll, revokedOutcome]⟩
  | cons st rest ih =>
    obtain ⟨hst, hrest⟩ := List.forall_mem_cons.mp h
    unfold revokeAll
    rw [attempt_bind_of_ok _ _ (attempt_report _ _ _)]
    rw [attempt_bind_of_ok _ _ (Job.attempt_lift_run _ _ _)]
    obtain ⟨journal₁, hx⟩ := m.attempt_revoke s st hst b (journal ++ [.revoking st.migration.label])
    change attempt m.table ((s.holding b journal).report _) _ = _ at hx
    rw [hx]
    cases ha : m.retreat s b st with
    | error why =>
      rw [Progress.along_cons_error ha]
      refine ⟨journal₁ ++ [.revokeFailed st.migration.label why.message], ?_⟩
      simp only [revokedOutcome, List.map_nil, List.append_nil]
      rfl
    | ok b' =>
      rw [Progress.along_cons_ok ha]
      obtain ⟨journal₂, hr⟩ := ih (finished ++ [st.record]) hrest b'
        (journal₁ ++ [.revoked st.migration.label])
      refine ⟨journal₂, ?_⟩
      simp only
      rw [attempt_bind_of_ok _ _ (attempt_report _ _ _)]
      refine hr.trans ?_
      simp only [revokedOutcome, List.map_cons, List.append_assoc, List.singleton_append]

/-- **Rolling back** reads the table and the directory, looks everything up and runs along the plan.
If anything before the run fails, so does all, and the books stay as they are. -/
theorem attempt_rollback (n : Nat) :
    (∃ e s', (attempt m.table s m.applied).1 = .error e ∧
      attempt m.table s (m.rollback folder n) = (.error e, s') ∧ e.IsEarly ∧
      s'.books = s.books) ∨
    (∃ e s', (attempt m.table s m.applied).1 = .ok s.tracked.ledger.records ∧
      (attempt m.table s (m.discover folder)).1 = .error e ∧
      attempt m.table s (m.rollback folder n) = (.error e, s') ∧ e.IsEarly ∧
      s'.books = s.books) ∨
    ((attempt m.table s m.applied).1 = .ok s.tracked.ledger.records ∧
      (attempt m.table s (m.discover folder)).1 = .ok (m.found folder) ∧
      match (s.tracked.ledger.records.reverse.take n).mapM (step folder (m.found folder)) with
      | .error e => ∃ s', attempt m.table s (m.rollback folder n) = (.error e, s') ∧ e.IsEarly ∧
          s'.books = s.books
      | .ok plan => ∃ journal, attempt m.table s (m.rollback folder n) =
          (revokedOutcome [] (Progress.along (m.retreat s) s.books plan),
            s.holding (Progress.along (m.retreat s) s.books plan).state journal)) := by
  unfold rollback
  rcases m.attempt_applied_cases s with ha | ⟨e, s', ha, he, hs'⟩
  · rw [attempt_bind_of_ok _ _ ha, ha]
    obtain ⟨journal, hd⟩ := m.attempt_discover s.opened folder m.table
    -- the directory is listed after the table has been opened, and it is the same either way
    obtain ⟨journal₀, hd₀⟩ := m.attempt_discover s folder m.table
    rw [hd₀]
    cases folder with
    | error why =>
      exact .inr (.inl ⟨_, _, rfl, rfl, attempt_bind_of_error _ _ hd, trivial, rfl⟩)
    | ok es =>
      rw [attempt_bind_of_ok _ _ hd]
      refine .inr (.inr ⟨rfl, rfl, ?_⟩)
      cases hplan : (s.tracked.ledger.records.reverse.take n).mapM
          (step (.ok es) (m.found (.ok es))) with
      | error e => exact ⟨_, rfl, isEarly_of_mapM hplan, rfl⟩
      | ok plan =>
        exact m.attempt_revokeAll s [] plan (fun st hst => ((plan_of_mapM hplan).2 st hst).2)
          s.books journal
  · refine .inl ⟨e, s', ?_, attempt_bind_of_error _ _ ha, he, hs'⟩
    rw [ha]

/-! ## What is left behind -/

/-- What taking the given records back with the given texts and nothing else makes of books: the
records, newest first, are gone from the end, and the texts are in the log in their order. -/
structure Removes (b : Books) (as : List Applied) (downs : List String) (b' : Books) : Prop where
  rows : b'.ledger.records ++ as.reverse = b.ledger.records
  log : b'.log = b.log ++ m.table.logged downs

variable {m folder s} {b b' : Books}

theorem Removes.nil (b : Books) : m.Removes b [] [] b :=
  ⟨List.append_nil _, by simp⟩

theorem Removes.trans {as as' : List Applied} {downs downs' : List String} {b'' : Books}
    (h : m.Removes b as downs b') (h' : m.Removes b' as' downs' b'') :
    m.Removes b (as ++ as') (downs ++ downs') b'' := by
  refine ⟨?_, ?_⟩
  · rw [List.reverse_append, ← List.append_assoc, h'.rows, h.rows]
  · rw [h'.log, h.log, TrackingTable.logged_append, List.append_assoc]

theorem leave_eq_ok {version : Version} {down : String} (h : m.leave s version down b = .ok b') :
    b' = ⟨b.ledger.erase version, b.log ++ m.table.logged [down]⟩ := by
  unfold leave at h
  cases hs : Books.script m.table s down b with
  | error e =>
    rw [hs] at h
    cases h
  | ok b₁ =>
    rw [hs] at h
    obtain rfl := Books.script_eq_ok hs
    exact Books.forget_eq_ok h

/-- **One step**: taking the last record back removes it and nothing else. -/
theorem removes_of_retreat {st : Step} {rs : List Applied}
    (hv : st.migration.version = st.record.version) (hrs : b.ledger.records = rs ++ [st.record])
    (h : m.retreat s b st = .ok b') :
    m.Removes b [st.record] [st.down] b' ∧ b'.ledger.records = rs := by
  obtain rfl := leave_eq_ok h
  -- the version is the highest one, so erasing it takes off the last record
  have hrows : (b.ledger.erase st.migration.version).records = rs := by
    rw [hv]
    exact Ledger.records_erase_last hrs
  refine ⟨⟨?_, rfl⟩, hrows⟩
  rw [hrows, hrs]
  rfl

/-- **A run**: steps that all succeed for the last records, newest first, remove these and nothing
else. -/
theorem removes_of_foldlM {plan : List Step} {rs : List Applied}
    (hv : ∀ st ∈ plan, st.migration.version = st.record.version)
    (hrs : b.ledger.records = rs ++ (plan.map Step.record).reverse)
    (h : plan.foldlM (m.retreat s) b = .ok b') :
    m.Removes b (plan.map Step.record) (plan.map Step.down) b' := by
  induction plan generalizing b with
  | nil =>
    obtain rfl : b = b' := Except.ok.inj h
    exact Removes.nil b
  | cons st rest ih =>
    obtain ⟨hst, hrest⟩ := List.forall_mem_cons.mp hv
    rw [List.foldlM_cons] at h
    cases hb : m.retreat s b st with
    | error why =>
      rw [hb] at h
      cases h
    | ok b₁ =>
      rw [hb] at h
      rw [List.map_cons, List.reverse_cons, ← List.append_assoc] at hrs
      obtain ⟨hremoves, hrs₁⟩ := removes_of_retreat hst hrs hb
      exact hremoves.trans (ih hrest hrs₁ h)

theorem version_of_find?
    (h : (found.find? fun y => y.version = a.version) = some x) : x.version = a.version := by
  simpa using List.find?_some h

/-- As far as a run along a plan for the last records comes, it removes these and nothing else. -/
theorem removes_of_along {n : Nat} {plan : List Step}
    (h : (b.ledger.records.reverse.take n).mapM (step folder found) = .ok plan) :
    m.Removes b ((Progress.along (m.retreat s) b plan).finished.map Step.record)
      ((Progress.along (m.retreat s) b plan).finished.map Step.down)
      (Progress.along (m.retreat s) b plan).state := by
  obtain ⟨hrecords, hplan⟩ := plan_of_mapM h
  have hfront : (Progress.along (m.retreat s) b plan).finished <+: plan :=
    Progress.finished_isPrefix b plan
  obtain ⟨rest, hrest⟩ : (Progress.along (m.retreat s) b plan).finished.map Step.record <+:
      b.ledger.records.reverse :=
    (hfront.map Step.record).trans (hrecords ▸ List.take_prefix n _)
  have hrows : b.ledger.records = rest.reverse ++
      ((Progress.along (m.retreat s) b plan).finished.map Step.record).reverse := by
    rw [← List.reverse_append, hrest, List.reverse_reverse]
  refine removes_of_foldlM ?_ hrows (Progress.foldlM_finished b plan)
  intro st hst
  exact version_of_find? (hplan st (hfront.subset hst)).1

/-- The first record that cannot be looked up, newest first, is the newest that cannot. -/
theorem newest_of_mapM_error {rs : List Applied} {e : MigrationError}
    (hrs : rs.Pairwise fun a a' => a'.version < a.version)
    (h : rs.mapM (lookUp folder found) = .error e) :
    ∃ a ∈ rs, lookUp folder found a = .error e ∧
      ∀ a' ∈ rs, a.version < a'.version → ∃ down, lookUp folder found a' = .ok down := by
  obtain ⟨newer, a, older, rfl, hnewer, ha⟩ := split_of_mapM_error h
  refine ⟨a, by simp, ha, ?_⟩
  intro a' ha' hlt
  rcases List.mem_append.mp ha' with ha' | ha'
  · exact hnewer a' ha'
  · -- those behind are older
    rcases List.mem_cons.mp ha' with rfl | ha'
    · exact absurd hlt Int64.lt_irrefl
    · have hrest := (List.pairwise_append.mp hrs).2.1
      exact absurd (List.rel_of_pairwise_cons hrest ha') (Int64.lt_asymm hlt)

/-- **Looking up first, then prefix commit.**  Let the table and the directory be readable, and let
`rs` be the last `n` records, newest first.  If something cannot be looked up, the run fails with the
reason for the highest such version and the books stay as they are.  Otherwise the run either gives
`rs` and leaves what taking all of them back leaves, or it stops at some `rs[k]`, which cannot be
taken back from the books as they then are: the error names it and the file of its version, lists the
versions before it, and what is left is what taking back those before it leaves. -/
theorem rollback_prefix_commit (m : Migrator) (folder : Folder) (s : Store) (n : Nat) :
    let r := attempt m.table s (m.rollback folder n)
    match (attempt m.table s m.applied).1, (attempt m.table s (m.discover folder)).1 with
    | .ok records, .ok found =>
      let rs := records.reverse.take n
      match rs.mapM (lookUp folder found) with
      | .error e =>
        (∃ a ∈ rs, lookUp folder found a = .error e ∧
          ∀ a' ∈ rs, a.version < a'.version → ∃ down, lookUp folder found a' = .ok down) ∧
        r.1 = .error e ∧ r.2.books = s.books
      | .ok downs =>
        (r.1 = .ok rs ∧ m.Removes s.books rs downs r.2.books) ∨
        ∃ k, ∃ h : k < rs.length, ∃ x down why,
          (found.find? fun y => y.version = rs[k].version) = some x ∧
          downs[k]? = some down ∧
          r.1 = .error (.rollbackFailed rs[k].version x.name
            ((rs.take k).map Applied.version) why) ∧
          m.Removes s.books (rs.take k) (downs.take k) r.2.books ∧
          m.leave s rs[k].version down r.2.books = .error why
    | .error e, _ => r.1 = .error e ∧ r.2.books = s.books
    | .ok _, .error e => r.1 = .error e ∧ r.2.books = s.books := by
  rcases m.attempt_rollback folder s n with
    ⟨e, s', ha, hr, -, hb⟩ | ⟨e, s', ha, hd, hr, -, hb⟩ | ⟨ha, hd, hr⟩
  · rw [ha, hr]
    exact ⟨rfl, hb⟩
  · rw [ha, hd, hr]
    exact ⟨rfl, hb⟩
  · rw [ha, hd]
    simp only
    set found := m.found folder
    set rs := s.tracked.ledger.records.reverse.take n with hrs
    have hlook : rs.mapM (lookUp folder found) =
        (rs.mapM (step folder found)).map (List.map Step.down) := by
      rw [← mapM_map_except]
      exact congrArg rs.mapM (funext fun a => (map_down_step folder found a).symm)
    rw [hlook]
    cases hplan : rs.mapM (step folder found) with
    | error e =>
      rw [hplan] at hr hlook
      obtain ⟨s', hr, -, hb⟩ := hr
      rw [hr]
      refine ⟨newest_of_mapM_error ?_ hlook, rfl, hb⟩
      exact (List.pairwise_reverse.mpr s.tracked.ledger.sorted).sublist (List.take_sublist n _)
    | ok plan =>
      rw [hplan] at hr
      obtain ⟨journal, hr⟩ := hr
      rw [hr]
      obtain ⟨hrecords, hsteps⟩ := plan_of_mapM hplan
      have hremoves := m.removes_of_along (s := s) (b := s.books) hplan
      set p := Progress.along (m.retreat s) s.books plan with hp
      cases hstop : p.stop with
      | none =>
        have hall : p.finished = plan := Progress.finished_of_not_stopped hstop
        rw [hall, hrecords] at hremoves
        refine .inl ⟨?_, hremoves⟩
        simp only [revokedOutcome, hstop, hall, hrecords, List.nil_append]
      | some stop =>
        obtain ⟨st, why⟩ := stop
        obtain ⟨k, hk, htake, hst, hwhy⟩ := Progress.take_of_stop hstop
        rw [← hp] at htake hwhy
        have hkr : k < rs.length := by
          rw [← hrecords, List.length_map]
          exact hk
        have hrk : rs[k] = st.record := by
          simp only [← hrecords, List.getElem_map, hst]
        have hx := (hsteps st (hst ▸ List.getElem_mem hk)).1
        have hv := version_of_find? hx
        rw [htake, List.map_take, List.map_take, hrecords] at hremoves
        refine .inr ⟨k, hkr, st.migration, st.down, why, ?_, ?_, ?_, hremoves, ?_⟩
        · rw [hrk]
          exact hx
        · rw [List.getElem?_map, List.getElem?_eq_getElem hk, hst]
          rfl
        · simp only [revokedOutcome, hstop, htake, hrk, hv, List.map_take, hrecords,
            List.nil_append]
        · rw [hrk, ← hv]
          exact hwhy

end Migrator

end SchemaKit
