import SchemaKit.Proofs.Ledger
import SchemaKit.Proofs.Progress
import SchemaKit.Proofs.Reading
import SchemaKit.Proofs.WorkRules

/-!
# Applying

A run of `migrate` is progress along the pending migrations: each is applied to the books in one
transaction (`Migrator.advance`), and the run ends where one cannot be.  What is left behind is
always what the finished ones alone leave (`Migrator.Adds`), whether the run succeeds or not.
-/

namespace SchemaKit

namespace Migrator

open Job (attempt attempt_bind attempt_bind_of_ok attempt_bind_of_error)

variable (m : Migrator) (folder : Folder) (s : Store)

/-! ## One migration -/

/-- What the transaction of a migration does to books: it runs the text, if there is any, and
records the migration. -/
def enter (x : Migration) (sql : String) (b : Books) : Except StoreError Books := do
  let b ← if sql = "" then pure b else Books.script m.table s sql b
  Books.record m.table s x.version x.name b

/-- What applies a migration: the upper section of its file, or all of the file if there is no marker
for one.  There is nothing if the file cannot be read. -/
def scriptOf (x : Migration) : Except ApplyFault String :=
  match folder.read x.entryName with
  | .error why => .error (.file x.path why)
  | .ok text =>
    match Section.extract .up text with
    | none => .ok text
    | some body => .ok body

/-- What applying a migration does to books. -/
def advance (b : Books) (x : Migration) : Except ApplyFault Books :=
  match scriptOf folder x with
  | .error why => .error why
  | .ok sql => (m.enter s x sql b).mapError .store

/-- A file that can be read is run as the rule for its sections says. -/
theorem scriptOf_of_read {x : Migration} {text : String}
    (h : folder.read x.entryName = .ok text) : scriptOf folder x = .ok (Section.upBody text) := by
  simp only [scriptOf, h, Section.upBody]
  cases Section.extract .up text <;> rfl

theorem does_recordVersion (version : Version) (name : String) :
    Work.Does m.table s (m.recordVersion version name) (Books.record m.table s version name) :=
  ((Work.does_tell _).bind fun _ => (Work.does_record version name).discard).congr fun b =>
    pure_bind b _

theorem does_applyWork (x : Migration) (sql : String) :
    Work.Does m.table s (m.applyWork x sql) (m.enter s x sql) := by
  have hrecord := m.does_recordVersion s x.version x.name
  unfold applyWork enter
  by_cases h : sql = ""
  · simp only [if_pos h]
    exact (Work.does_tell _).bind fun _ => hrecord
  · simp only [if_neg h]
    exact (Work.does_script h).bind fun _ => hrecord

/-- **One migration**: the store has the books that it leads to, or those it had if it fails. -/
theorem attempt_apply (x : Migration) (b : Books) (journal : List Event) :
    ∃ journal', attempt m.table (s.holding b journal) (m.apply folder x) =
      match m.advance folder s b x with
      | .ok b' => (.ok (), s.holding b' journal')
      | .error why => (.error why, s.holding b journal') := by
  unfold apply advance
  cases hread : folder.read x.entryName with
  | error why =>
    simp only [scriptOf, hread]
    exact ⟨journal, rfl⟩
  | ok text =>
    obtain ⟨journal', h⟩ :=
      (m.does_applyWork s x (Section.upBody text)).transact b journal
    refine ⟨journal', ?_⟩
    simp only [Job.attempt_transaction, scriptOf_of_read folder hread]
    rw [h]
    cases m.enter s x (Section.upBody text) b <;> rfl

/-! ## A run -/

/-- What a run of applying gives when it has come so far. -/
def appliedOutcome (finished : List Migration) (p : Progress Migration Books ApplyFault) :
    Except MigrationError (List Migration) :=
  match p.stop with
  | none => .ok (finished ++ p.finished)
  | some (x, why) => .error (.applyFailed x.version x.name
      ((finished ++ p.finished).map Migration.version) why)

/-- **A run** is progress along the migrations to be applied. -/
theorem attempt_applyAll (finished l : List Migration) (b : Books) (journal : List Event) :
    ∃ journal', attempt m.table (s.holding b journal) (m.applyAll folder finished l) =
      (appliedOutcome finished (Progress.along (m.advance folder s) b l),
        s.holding (Progress.along (m.advance folder s) b l).state journal') := by
  induction l generalizing finished b journal with
  | nil => exact ⟨journal, by simp [applyAll, appliedOutcome]⟩
  | cons x rest ih =>
    unfold applyAll
    rw [attempt_bind_of_ok _ _ (attempt_report _ _ _)]
    rw [attempt_bind_of_ok _ _ (Job.attempt_lift_run _ _ _)]
    obtain ⟨journal₁, hx⟩ := m.attempt_apply folder s x b (journal ++ [.applying x.label])
    change attempt m.table ((s.holding b journal).report _) (m.apply folder x) = _ at hx
    rw [hx]
    cases ha : m.advance folder s b x with
    | error why =>
      rw [Progress.along_cons_error ha]
      refine ⟨journal₁ ++ [.applyFailed x.label why.message], ?_⟩
      simp only [appliedOutcome, List.append_nil]
      rfl
    | ok b' =>
      rw [Progress.along_cons_ok ha]
      obtain ⟨journal₂, hr⟩ := ih (finished ++ [x]) b' (journal₁ ++ [.applied x.label])
      refine ⟨journal₂, ?_⟩
      simp only
      rw [attempt_bind_of_ok _ _ (attempt_report _ _ _)]
      refine hr.trans ?_
      simp only [appliedOutcome, List.append_assoc, List.singleton_append]

/-- **Migrating** asks what is pending and runs along it.  If the question fails, so does the run,
and the books stay as they are. -/
theorem attempt_migrate (target : Option Version) :
    (∃ l s' journal, attempt m.table s (m.pending folder target) = (.ok l, s') ∧
      l = notApplied s.tracked.ledger.versions target (m.found folder) ∧
      attempt m.table s (m.migrate folder target) =
        (appliedOutcome [] (Progress.along (m.advance folder s) s.books l),
          s.holding (Progress.along (m.advance folder s) s.books l).state journal)) ∨
    ∃ e s' s'', attempt m.table s (m.pending folder target) = (.error e, s') ∧
      attempt m.table s (m.migrate folder target) = (.error e, s'') ∧ e.IsEarly ∧
      s''.books = s.books := by
  unfold migrate
  have hensure := m.attempt_ensure s
  cases hc : s.failure? m.table.createText with
  | some marker =>
    rw [hc] at hensure
    -- the question fails at its first statement, which is the run's own first one
    have ha := m.attempt_applied s
    rw [hc] at ha
    refine .inr ⟨_, s, s, ?_, attempt_bind_of_error _ _ hensure, trivial, rfl⟩
    exact attempt_bind_of_error _ _ (attempt_bind_of_error _ _ ha)
  | none =>
    rw [hc] at hensure
    rw [attempt_bind_of_ok _ _ hensure]
    rcases m.attempt_pending s folder target with ⟨journal, hp⟩ | ⟨e, s', hp, he, hs'⟩
    · have hp' := (m.attempt_pending_opened s folder target hc).trans hp
      rw [attempt_bind_of_ok _ _ hp']
      set l := notApplied s.tracked.ledger.versions target (m.found folder) with hl
      obtain ⟨journal', hr⟩ : ∃ journal', attempt m.table (s.holding s.books journal) (do
            if l.isEmpty then
              report (.nothingPending m.directory)
            m.applyAll folder [] l) =
          (appliedOutcome [] (Progress.along (m.advance folder s) s.books l),
            s.holding (Progress.along (m.advance folder s) s.books l).state journal') := by
        by_cases he : l.isEmpty = true
        · simp only [if_pos he]
          rw [attempt_bind_of_ok _ _ (attempt_report _ _ _)]
          exact m.attempt_applyAll folder s [] l s.books _
        · simp only [if_neg he]
          exact m.attempt_applyAll folder s [] l s.books journal
      exact .inl ⟨l, _, journal', hp, hl, hr⟩
    · have hp' := (m.attempt_pending_opened s folder target hc).trans hp
      exact .inr ⟨e, s', s', hp, attempt_bind_of_error _ _ hp', he, hs'⟩

/-! ## What is left behind -/

/-- What applying the given migrations and nothing else makes of books: one more record for each,
and their texts in the log in their order. -/
structure Adds (b : Books) (l : List Migration) (b' : Books) : Prop where
  rows : b'.ledger.records.Perm
    (b.ledger.records ++ l.map fun x => ⟨x.version, x.name, s.clock⟩)
  log : ∃ texts, l.mapM (scriptOf folder) = .ok texts ∧ b'.log = b.log ++ m.table.logged texts

variable {m folder s} {b b' : Books} {x : Migration} {l : List Migration}

theorem Adds.nil (b : Books) : m.Adds folder s b [] b :=
  ⟨by simp, [], rfl, by simp⟩

theorem enter_eq_ok {sql : String} (h : m.enter s x sql b = .ok b') :
    b.ledger.contains x.version = false ∧
      b' = ⟨b.ledger.put ⟨x.version, x.name, s.clock⟩, b.log ++ m.table.logged [sql]⟩ := by
  unfold enter at h
  by_cases hsql : sql = ""
  · subst hsql
    obtain ⟨hv, rfl⟩ := Books.record_eq_ok h
    exact ⟨hv, by simp⟩
  · rw [if_neg hsql] at h
    cases hs : Books.script m.table s sql b with
    | error e =>
      rw [hs] at h
      cases h
    | ok b₁ =>
      rw [hs] at h
      obtain rfl := Books.script_eq_ok hs
      exact Books.record_eq_ok h

/-- **One step**: an applied migration was new, and it is all that is added. -/
theorem adds_of_advance (h : m.advance folder s b x = .ok b') : m.Adds folder s b [x] b' := by
  unfold advance at h
  cases hsql : scriptOf folder x with
  | error why =>
    rw [hsql] at h
    cases h
  | ok sql =>
    rw [hsql] at h
    cases he : m.enter s x sql b with
    | error e =>
      simp only [he] at h
      cases h
    | ok b₁ =>
      simp only [he] at h
      obtain rfl : b₁ = b' := Except.ok.inj h
      obtain ⟨hv, rfl⟩ := enter_eq_ok he
      refine ⟨Ledger.records_put_perm hv, [sql], ?_, rfl⟩
      rw [List.mapM_cons, hsql]
      rfl

theorem Adds.trans {l' : List Migration} {b'' : Books} (h : m.Adds folder s b l b')
    (h' : m.Adds folder s b' l' b'') : m.Adds folder s b (l ++ l') b'' := by
  obtain ⟨hrows, texts, htexts, hlog⟩ := h
  obtain ⟨hrows', texts', htexts', hlog'⟩ := h'
  refine ⟨?_, texts ++ texts', ?_, ?_⟩
  · rw [List.map_append, ← List.append_assoc]
    exact hrows'.trans (hrows.append_right _)
  · rw [List.mapM_append, htexts, htexts']
    rfl
  · rw [hlog', hlog, TrackingTable.logged_append, List.append_assoc]

/-- **A run**: steps that all succeed add their migrations and nothing else. -/
theorem adds_of_foldlM (h : l.foldlM (m.advance folder s) b = .ok b') :
    m.Adds folder s b l b' := by
  induction l generalizing b with
  | nil =>
    obtain rfl : b = b' := Except.ok.inj h
    exact Adds.nil b
  | cons x rest ih =>
    rw [List.foldlM_cons] at h
    cases hx : m.advance folder s b x with
    | error why =>
      rw [hx] at h
      cases h
    | ok b₁ =>
      rw [hx] at h
      exact (adds_of_advance hx).trans (ih h)

/-- **Prefix commit.**  Let `pending` be what is pending in a store with any records, log and failure
markers.  Either the run gives `pending` and leaves what applying all of it leaves, or it stops at
some `pending[k]`, which cannot be applied to the books as they then are: the error names it, lists
the versions before it, and what is left is what applying those before it leaves.  If what is
pending cannot be told, the run fails alike and the books stay as they are.

`Adds` says what is left: one new record for each migration beside the old ones, and in the log, in
their order, the upper section of each file or all of the file if it has none (`scriptOf`), without
the empty texts and without those that a store takes for the statements that create or read its
tracking table (`TrackingTable.logged`). -/
theorem migrate_prefix_commit (m : Migrator) (folder : Folder) (s : Store)
    (target : Option Version) :
    let r := attempt m.table s (m.migrate folder target)
    match (attempt m.table s (m.pending folder target)).1 with
    | .ok pending =>
      (r.1 = .ok pending ∧ m.Adds folder s s.books pending r.2.books) ∨
      ∃ k, ∃ h : k < pending.length, ∃ why,
        r.1 = .error (.applyFailed pending[k].version pending[k].name
          ((pending.take k).map Migration.version) why) ∧
        m.Adds folder s s.books (pending.take k) r.2.books ∧
        m.advance folder s r.2.books pending[k] = .error why
    | .error e => r.1 = .error e ∧ r.2.books = s.books := by
  rcases m.attempt_migrate folder s target with
    ⟨l, s', journal, hp, -, hr⟩ | ⟨e, s', s'', hp, hr, -, hb⟩
  · rw [hp, hr]
    set p := Progress.along (m.advance folder s) s.books l with hpdef
    have hadds : m.Adds folder s s.books p.finished p.state :=
      adds_of_foldlM (Progress.foldlM_finished s.books l)
    cases hstop : p.stop with
    | none =>
      have hall : p.finished = l := Progress.finished_of_not_stopped hstop
      rw [hall] at hadds
      refine .inl ⟨?_, hadds⟩
      simp only [appliedOutcome, hstop, hall, List.nil_append]
    | some stop =>
      obtain ⟨x, why⟩ := stop
      obtain ⟨k, hk, htake, hx, hwhy⟩ := Progress.take_of_stop hstop
      rw [← hpdef] at htake hwhy
      refine .inr ⟨k, hk, why, ?_, htake ▸ hadds, ?_⟩
      · simp only [appliedOutcome, hstop, hx, htake, List.nil_append]
      · rw [hx]
        exact hwhy
  · rw [hp, hr]
    exact ⟨rfl, hb⟩

end Migrator

end SchemaKit
