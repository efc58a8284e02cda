import SchemaKit.Proofs.Bookkeeping
import SchemaKit.Proofs.Conflicts
import SchemaKit.Proofs.Session

/-!
# What jobs record

What a job can do to the records of a tracking table is read off the job itself, whatever answers it
gets.  `Work.Records t post w vs` says that `w`, done in a transaction that has recorded `vs`, removes
nothing, and ends with a result and recorded versions of which `post` holds.  `Job.Applies t post j vs`
says that `j`, whose transactions have recorded `vs` so far, changes records in transactions of one
version each and nowhere else, and ends with a result and recorded versions of which `post` holds.
There is one rule for each way of building a job, and by these rules a migrator reports exactly what
its transactions have recorded (`Migrator.applies_migrate`).
-/

namespace SchemaKit

/-! ## Statements -/

/-- The version that an operation records. -/
def TrackingOp.recorded? : TrackingOp → Option Int64
  | record version _ => some version
  | _ => none

namespace Statement

variable (t : TrackingTable) (q : Statement)

/-- The versions that a statement records if it is not refused. -/
def recorded : List Int64 :=
  match TrackingOp.ofStatement t q with
  | .ok (some op) => op.recorded?.toList
  | _ => []

/-- A statement that removes no record. -/
def RemovesNone : Prop :=
  ∀ v, TrackingOp.ofStatement t q ≠ .ok (some (.remove v))

/-- A statement that neither records a version nor removes one. -/
def LeavesRecords : Prop :=
  ∀ op, TrackingOp.ofStatement t q = .ok (some op) → op.version? = none

theorem leavesRecords_create : t.create.LeavesRecords t := by
  intro op h
  rw [TrackingOp.ofStatement_create] at h
  cases h
  rfl

theorem leavesRecords_select : t.select.LeavesRecords t := by
  intro op h
  rw [TrackingOp.ofStatement_select] at h
  cases h
  rfl

theorem recorded_record (version : Int64) (name : String) :
    (t.record version name).recorded t = [version] := by
  simp only [recorded, TrackingOp.ofStatement_record]
  rfl

theorem removesNone_record (version : Int64) (name : String) :
    (t.record version name).RemovesNone t := by
  intro v h
  rw [TrackingOp.ofStatement_record] at h
  cases h

/-- **A text that binds no values** leaves the records alone. -/
theorem leavesRecords_script (sql : String) : Statement.LeavesRecords t ⟨sql, []⟩ := by
  intro op h
  rcases TrackingOp.ofStatement_script t h with ⟨hop, -⟩ | ⟨hop, -⟩ | ⟨hop, -⟩ <;> cases hop <;> rfl

variable {t} {q}

theorem LeavesRecords.removesNone (h : q.LeavesRecords t) : q.RemovesNone t := by
  intro v hv
  cases h _ hv

theorem LeavesRecords.recorded_eq_nil (h : q.LeavesRecords t) : q.recorded t = [] := by
  unfold recorded
  split
  · rename_i op hop
    cases op with
    | record version name => cases h _ hop
    | create => rfl
    | select => rfl
    | remove version => rfl
  · rfl

end Statement

/-! ## Inside a transaction -/

namespace Work

variable {α β : Type} {t : TrackingTable}

/-- Whatever a piece of work is answered, it removes no record, and `post` holds in the end of what
it gives and of the versions that are recorded by then. -/
def Records (t : TrackingTable) (post : α → List Int64 → Prop) : Work α → List Int64 → Prop
  | done a, vs => post a vs
  | report _ next, vs => next.Records t post vs
  | execute q next, vs => q.RemovesNone t ∧ (∀ e, (next (.error e)).Records t post vs) ∧
      ∀ rows, (next (.ok rows)).Records t post (vs ++ q.recorded t)

theorem Records.mono {post post' : α → List Int64 → Prop} {w : Work α} {vs : List Int64}
    (h : w.Records t post vs) (hpost : ∀ a vs, post a vs → post' a vs) :
    w.Records t post' vs := by
  induction w generalizing vs with
  | done a => exact hpost a vs h
  | report e next ih => exact ih h
  | execute q next ih =>
    obtain ⟨hq, herror, hok⟩ := h
    exact ⟨hq, fun e => ih _ (herror e), fun rows => ih _ (hok rows)⟩

theorem Records.bind {post : β → List Int64 → Prop} {w : Work α} {f : α → Work β} {vs : List Int64}
    (h : w.Records t (fun a vs => (f a).Records t post vs) vs) : (w.bind f).Records t post vs := by
  induction w generalizing vs with
  | done a => exact h
  | report e next ih => exact ih h
  | execute q next ih =>
    obtain ⟨hq, herror, hok⟩ := h
    exact ⟨hq, fun e => ih _ (herror e), fun rows => ih _ (hok rows)⟩

/-- Work that may fail: what follows is done if it succeeds. -/
theorem records_bind {post : Except StoreError β → List Int64 → Prop} {w : ExceptT StoreError Work α}
    {f : α → ExceptT StoreError Work β} {vs : List Int64}
    (h : w.run.Records t (fun r vs => match r with
      | .ok a => (f a).run.Records t post vs
      | .error e => post (.error e) vs) vs) : (w >>= f).run.Records t post vs := by
  refine Records.bind (h.mono fun r vs hr => ?_)
  cases r with
  | ok a => exact hr
  | error e => exact hr

theorem records_tell {post : Except StoreError Unit → List Int64 → Prop} {e : Event}
    {vs : List Int64} (h : post (.ok ()) vs) : (tell e).run.Records t post vs := h

theorem records_query {post : Except StoreError (List Row) → List Int64 → Prop} {q : Statement}
    {vs : List Int64} (hq : q.RemovesNone t) (herror : ∀ e, post (.error e) vs)
    (hok : ∀ rows, post (.ok rows) (vs ++ q.recorded t)) : (query q).run.Records t post vs :=
  ⟨hq, herror, hok⟩

end Work

/-! ## Outside any transaction -/

namespace Job

variable {α β ε : Type} {t : TrackingTable}

/-- Whatever a job is answered, it changes records only in transactions that record one version each,
and `post` holds in the end of what it gives and of the versions that these transactions have
recorded by then. -/
def Applies (t : TrackingTable) (post : α → List Int64 → Prop) : Job α → List Int64 → Prop
  | done a, vs => post a vs
  | report _ next, vs => next.Applies t post vs
  | execute q next, vs => q.LeavesRecords t ∧ ∀ r, (next r).Applies t post vs
  | transact w next, vs => ∃ v, w.Records t (fun r recorded => r = .ok () → recorded = [v]) [] ∧
      (next (.ok ())).Applies t post (vs ++ [v]) ∧ ∀ e, (next (.error e)).Applies t post vs

theorem Applies.mono {post post' : α → List Int64 → Prop} {j : Job α} {vs : List Int64}
    (h : j.Applies t post vs) (hpost : ∀ a vs, post a vs → post' a vs) : j.Applies t post' vs := by
  induction j generalizing vs with
  | done a => exact hpost a vs h
  | report e next ih => exact ih h
  | execute q next ih => exact ⟨h.1, fun r => ih r (h.2 r)⟩
  | transact w next ih =>
    obtain ⟨v, hw, hok, herror⟩ := h
    exact ⟨v, hw, ih _ hok, fun e => ih _ (herror e)⟩

theorem Applies.bind {post : β → List Int64 → Prop} {j : Job α} {f : α → Job β} {vs : List Int64}
    (h : j.Applies t (fun a vs => (f a).Applies t post vs) vs) : (j.bind f).Applies t post vs := by
  induction j generalizing vs with
  | done a => exact h
  | report e next ih => exact ih h
  | execute q next ih => exact ⟨h.1, fun r => ih r (h.2 r)⟩
  | transact w next ih =>
    obtain ⟨v, hw, hok, herror⟩ := h
    exact ⟨v, hw, ih _ hok, fun e => ih _ (herror e)⟩

/-- A job that may fail: what follows is done if it succeeds. -/
theorem applies_bind {post : Except ε β → List Int64 → Prop} {j : ExceptT ε Job α}
    {f : α → ExceptT ε Job β} {vs : List Int64}
    (h : j.run.Applies t (fun r vs => match r with
      | .ok a => (f a).run.Applies t post vs
      | .error e => post (.error e) vs) vs) : (j >>= f).run.Applies t post vs := by
  refine Applies.bind (h.mono fun r vs hr => ?_)
  cases r with
  | ok a => exact hr
  | error e => exact hr

theorem applies_lift {post : Except ε α → List Int64 → Prop} {j : Job α} {vs : List Int64}
    (h : j.Applies t (fun a vs => post (.ok a) vs) vs) :
    (ExceptT.lift j : ExceptT ε Job α).run.Applies t post vs :=
  Applies.bind h

end Job

namespace Migrator

open Job (applies_bind applies_lift)
open Work (records_bind records_tell records_query)

/-! ## Reading -/

section Reading

variable {α β : Type} {t : TrackingTable}

/-- An attempt that records nothing, and fails only early. -/
def Reads (t : TrackingTable) (j : Attempt α) : Prop :=
  ∀ vs, j.run.Applies t (fun r vs' => vs' = vs ∧ ∀ e, r = .error e → e.IsEarly) vs

/-- **Reading comes first**: what follows is done if the reading succeeds. -/
theorem Reads.before {post : Except MigrationError β → List Int64 → Prop} {j : Attempt α}
    {f : α → Attempt β} {vs : List Int64} (hj : Reads t j)
    (hearly : ∀ e : MigrationError, e.IsEarly → post (.error e) vs)
    (hf : ∀ a, (f a).run.Applies t post vs) : (j >>= f).run.Applies t post vs := by
  refine applies_bind ((hj vs).mono fun r vs' hr => ?_)
  obtain ⟨rfl, hr⟩ := hr
  cases r with
  | ok a => exact hf a
  | error e => exact hearly e (hr e rfl)

theorem Reads.bind {j : Attempt α} {f : α → Attempt β} (hj : Reads t j) (hf : ∀ a, Reads t (f a)) :
    Reads t (j >>= f) := by
  refine fun vs => hj.before (fun e he => ⟨rfl, ?_⟩) fun a => hf a vs
  rintro _ ⟨⟩
  exact he

theorem reads_decided {r : Except MigrationError α} (h : ∀ e, r = .error e → e.IsEarly) :
    Reads t (decided r) :=
  fun _ => ⟨rfl, h⟩

theorem reads_pure (a : α) : Reads t (pure a : Attempt α) :=
  reads_decided (r := .ok a) fun _ h => by cases h

theorem reads_throw {e : MigrationError} (h : e.IsEarly) : Reads t (throw e : Attempt α) := by
  refine reads_decided (r := .error e) ?_
  rintro _ ⟨⟩
  exact h

theorem reads_query {q : Statement} (h : q.LeavesRecords t) :
    Reads t (Job.query trackingError q) := by
  refine fun vs => ⟨h, fun r => ⟨rfl, ?_⟩⟩
  rintro e he
  cases r with
  | ok rows => cases he
  | error why =>
    obtain rfl : trackingError why = e := Except.error.inj he
    trivial

variable (m : Migrator) (folder : Folder) (target : Option Version)

theorem reads_ensure : Reads m.table m.ensure :=
  (reads_query (Statement.leavesRecords_create m.table)).bind fun _ => reads_pure ()

theorem reads_applied : Reads m.table m.applied := by
  refine m.reads_ensure.bind fun _ =>
    (reads_query (Statement.leavesRecords_select m.table)).bind fun rows => reads_decided ?_
  intro e he
  cases hrows : rows.mapM Applied.ofRow with
  | ok as =>
    rw [hrows] at he
    cases he
  | error why =>
    rw [hrows] at he
    obtain rfl : MigrationError.tracking (.record why) = e := Except.error.inj he
    trivial

theorem applies_readEntries (names : List EntryName) (vs : List Int64) :
    (m.readEntries names).Applies t (fun _ vs' => vs' = vs) vs := by
  induction names with
  | nil => rfl
  | cons name names ih =>
    unfold readEntries
    cases m.ofEntry name with
    | ok x => exact Job.Applies.bind ih
    | error why => exact ih

theorem reads_discover : Reads t (m.discover folder) := by
  unfold discover
  cases folder with
  | error why => exact reads_throw trivial
  | ok es =>
    refine Reads.bind (fun vs => ?_) fun found => reads_pure _
    exact applies_lift ((m.applies_readEntries _ vs).mono fun _ _ h => ⟨h, fun _ he => by cases he⟩)

theorem reads_pending : Reads m.table (m.pending folder target) :=
  (m.reads_applied.bind fun _ => reads_pure _).bind fun _ =>
    (m.reads_discover folder).bind fun _ => reads_pure _

end Reading

/-! ## Applying -/

variable (m : Migrator) (folder : Folder)

/-- **The transaction of a migration**: if all of it is done, its version is recorded and no other. -/
theorem records_applyWork (x : Migration) (sql : String) :
    (m.applyWork x sql).run.Records m.table (fun r vs => r = .ok () → vs = [x.version]) [] := by
  have hrecord : (m.recordVersion x.version x.name).run.Records m.table
      (fun r vs => r = .ok () → vs = [x.version]) [] := by
    refine records_bind (records_tell (records_bind (records_query ?_ ?_ ?_)))
    · exact Statement.removesNone_record m.table x.version x.name
    · intro e h
      cases h
    · intro rows _
      rw [Statement.recorded_record, List.nil_append]
  have hscript : Statement.LeavesRecords m.table ⟨sql, []⟩ :=
    Statement.leavesRecords_script m.table sql
  unfold applyWork
  split
  · exact records_bind (records_tell hrecord)
  · refine records_bind (records_query hscript.removesNone ?_ ?_)
    · intro e h
      cases h
    · intro rows
      rw [hscript.recorded_eq_nil]
      exact hrecord

/-- **One migration**: its version is recorded if it succeeds, and none if it fails. -/
theorem applies_apply (x : Migration) (vs : List Int64) :
    (m.apply folder x).run.Applies m.table
      (fun r vs' => vs' = match r with
        | .ok () => vs ++ [x.version]
        | .error _ => vs) vs := by
  unfold apply
  split
  · rfl
  · exact ⟨x.version, m.records_applyWork x _, rfl, fun e => rfl⟩

/-- **A run**: what it reports in the end has been recorded, and nothing else. -/
theorem applies_applyAll (finished l : List Migration) :
    (m.applyAll folder finished l).run.Applies m.table (fun r vs => reportedApplied r = vs)
      (finished.map Migration.version) := by
  induction l generalizing finished with
  | nil => rfl
  | cons x rest ih =>
    unfold applyAll
    refine applies_bind (applies_bind (applies_lift ?_))
    refine (m.applies_apply folder x (finished.map Migration.version)).mono fun r vs hr => ?_
    subst hr
    cases r with
    | error why => rfl
    | ok u =>
      -- the rest goes on from one migration more that is finished and recorded
      have hnext := ih (finished ++ [x])
      rw [List.map_append] at hnext
      exact hnext

/-- **A call of `migrate`** reports exactly the versions that its transactions have recorded. -/
theorem applies_migrate (target : Option Version) :
    (m.migrate folder target).run.Applies m.table (fun r vs => reportedApplied r = vs) [] := by
  have hearly : ∀ e : MigrationError, e.IsEarly → reportedApplied (.error e) = [] :=
    fun _ => reportedApplied_early
  refine m.reads_ensure.before hearly fun _ =>
    (m.reads_pending folder target).before hearly fun pending => ?_
  split
  · exact applies_bind (m.applies_applyAll folder [] pending)
  · exact m.applies_applyAll folder [] pending

end Migrator

end SchemaKit
