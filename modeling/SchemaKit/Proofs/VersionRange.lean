import Mathlib
import SchemaKit.Proofs.Acceptance
import SchemaKit.Proofs.Listing

/-!
# The range of recorded versions

The column that records versions is declared as an INTEGER, and the versions of file names are those
of 64 bits from zero on.  Whatever it is answered, a call of `migrate` binds values only in records of
discovered migrations (`Migrator.asks_migrate`), so what it binds for a version is what stands in a
file name, and the column can hold it exactly up to the highest number of 32 bits
(`Migrator.bound_versions_fit_iff`).
-/

namespace SchemaKit

/-! ## Integer columns -/

/-- The types of columns that hold integers. -/
inductive IntegerType
  | smallint
  | integer
  | bigint
deriving DecidableEq

namespace IntegerType

/-- The size of a number in a column. -/
def bits : IntegerType → Nat
  | smallint => 16
  | integer => 32
  | bigint => 64

def name : IntegerType → String
  | smallint => "SMALLINT"
  | integer => "INTEGER"
  | bigint => "BIGINT"

/-- The type that a word declares. -/
def ofWord? (word : List Char) : Option IntegerType :=
  [smallint, integer, bigint].find? fun type => word == type.name.toList

/-- Whether a column of the type can hold a number. -/
def Holds (type : IntegerType) (n : Int) : Prop :=
  -2 ^ (type.bits - 1) ≤ n ∧ n < 2 ^ (type.bits - 1)

end IntegerType

/-- The type of integers that a text declares for a column.  Definitions of columns stand behind the
first parenthesis with commas between them, the name and the type of the column in front. -/
def declaredType? (sql column : String) : Option IntegerType :=
  ((sql.toList.dropWhile (· != '(')).tail.splitOn ',').findSome? fun definition =>
    match Text.words definition with
    | name :: type :: _ => if name = column.toList then IntegerType.ofWord? type else none
    | _ => none

namespace TrackingTable

variable (t : TrackingTable)

/-- **The column of versions** is an INTEGER, whatever the table is called. -/
theorem declaredType?_createText : declaredType? t.createText "version" = some .integer := by
  -- no name has a parenthesis, so the definitions begin behind the first one of the text
  have hfront : ∀ c ∈ "CREATE TABLE IF NOT EXISTS ".toList ++ (t.name.toList ++ [' ']),
      (c != '(') = true := by
    intro c hc
    rw [List.mem_append, List.mem_append, List.mem_singleton] at hc
    rw [bne_iff_ne]
    rintro rfl
    rcases hc with hc | hc | hc
    · exact absurd hc (by decide)
    · exact absurd (Sql.Identifier.isPart_of_isIdentifier t.isIdentifier _ hc) (by decide)
    · cases hc
  have htext : t.createText.toList =
      ("CREATE TABLE IF NOT EXISTS ".toList ++ (t.name.toList ++ [' '])) ++
        '(' :: ("version INTEGER PRIMARY KEY, name TEXT NOT NULL, " ++
          "applied_at TIMESTAMPTZ NOT NULL DEFAULT now())").toList := by
    delta createText
    simp only [String.toList_append, List.append_assoc]
    rfl
  rw [declaredType?, htext, Text.dropWhile_append_cons hfront (by decide), List.tail_cons]
  decide +kernel

/-- Whether the column that the table is created with can hold a version. -/
def Fits (version : Version) : Prop :=
  ∃ type, declaredType? t.createText "version" = some type ∧ type.Holds version.toInt

theorem fits_iff {t : TrackingTable} {version : Version} :
    t.Fits version ↔ -2147483648 ≤ version.toInt ∧ version.toInt ≤ 2147483647 := by
  have hholds : IntegerType.integer.Holds version.toInt ↔
      -2147483648 ≤ version.toInt ∧ version.toInt ≤ 2147483647 := by
    simp only [IntegerType.Holds, IntegerType.bits]
    omega
  rw [Fits, t.declaredType?_createText]
  constructor
  · rintro ⟨type, htype, h⟩
    obtain rfl := Option.some.inj htype
    exact hholds.mp h
  · intro h
    exact ⟨.integer, rfl, hholds.mpr h⟩

end TrackingTable

/-! ## What is asked -/

namespace Work

variable {α β : Type} {p : Statement → Prop}

/-- Whatever a piece of work is answered, `p` holds of every statement that it asks for. -/
def Asks (p : Statement → Prop) : Work α → Prop
  | done _ => True
  | report _ next => next.Asks p
  | execute q next => p q ∧ ∀ r, (next r).Asks p

theorem Asks.bind {w : Work α} {f : α → Work β} (h : w.Asks p) (hf : ∀ a, (f a).Asks p) :
    (w.bind f).Asks p := by
  induction w with
  | done a => exact hf a
  | report e next ih => exact ih h
  | execute q next ih => exact ⟨h.1, fun r => ih r (h.2 r)⟩

theorem asks_bind {w : ExceptT StoreError Work α} {f : α → ExceptT StoreError Work β}
    (h : w.run.Asks p) (hf : ∀ a, (f a).run.Asks p) : (w >>= f).run.Asks p := by
  refine Asks.bind h fun r => ?_
  cases r with
  | ok a => exact hf a
  | error e => trivial

theorem asks_tell (e : Event) : (tell e).run.Asks p :=
  trivial

theorem asks_query {q : Statement} (h : p q) : (query q).run.Asks p :=
  ⟨h, fun _ => trivial⟩

end Work

namespace Job

variable {α β ε : Type} {p : Statement → Prop}

/-- Whatever a job is answered, `p` holds of every statement that it asks for, in a transaction or
outside, and `post` holds in the end of what it gives. -/
def Asks (p : Statement → Prop) (post : α → Prop) : Job α → Prop
  | done a => post a
  | report _ next => next.Asks p post
  | execute q next => p q ∧ ∀ r, (next r).Asks p post
  | transact w next => w.Asks p ∧ ∀ r, (next r).Asks p post

theorem Asks.mono {post post' : α → Prop} {j : Job α} (h : j.Asks p post)
    (hpost : ∀ a, post a → post' a) : j.Asks p post' := by
  induction j with
  | done a => exact hpost a h
  | report e next ih => exact ih h
  | execute q next ih => exact ⟨h.1, fun r => ih r (h.2 r)⟩
  | transact w next ih => exact ⟨h.1, fun r => ih r (h.2 r)⟩

theorem Asks.bind {post : β → Prop} {j : Job α} {f : α → Job β}
    (h : j.Asks p fun a => (f a).Asks p post) : (j.bind f).Asks p post := by
  induction j with
  | done a => exact h
  | report e next ih => exact ih h
  | execute q next ih => exact ⟨h.1, fun r => ih r (h.2 r)⟩
  | transact w next ih => exact ⟨h.1, fun r => ih r (h.2 r)⟩

/-- Every result that is no error is one of which `post` holds. -/
def OkOnly (post : α → Prop) (r : Except ε α) : Prop :=
  ∀ a, r = .ok a → post a

/-- A job that may fail: what follows is done with a result of which `mid` holds. -/
theorem asks_bind {mid : α → Prop} {post : β → Prop} {j : ExceptT ε Job α}
    {f : α → ExceptT ε Job β} (h : j.run.Asks p (OkOnly mid))
    (hf : ∀ a, mid a → (f a).run.Asks p (OkOnly post)) : (j >>= f).run.Asks p (OkOnly post) := by
  refine Asks.bind (h.mono fun r hr => ?_)
  cases r with
  | ok a => exact hf a (hr a rfl)
  | error e =>
    intro b hb
    cases hb

theorem asks_pure {post : α → Prop} {a : α} (h : post a) :
    (pure a : ExceptT ε Job α).run.Asks p (OkOnly post) := by
  rintro _ ⟨⟩
  exact h

theorem asks_query {wrap : StoreError → ε} {q : Statement} (h : p q) :
    (query wrap q).run.Asks p (OkOnly fun _ => True) :=
  ⟨h, fun _ _ _ => trivial⟩

theorem asks_transaction {wrap : StoreError → ε} {w : ExceptT StoreError Work Unit}
    (h : w.run.Asks p) : (transaction wrap w).run.Asks p (OkOnly fun _ => True) :=
  ⟨h, fun _ _ _ => trivial⟩

theorem asks_lift {post : α → Prop} {j : Job α} (h : j.Asks p post) :
    (ExceptT.lift j : ExceptT ε Job α).run.Asks p (OkOnly post) := by
  refine Asks.bind (h.mono fun a ha => ?_)
  rintro _ ⟨⟩
  exact ha

end Job

namespace Migrator

open Job (attempt asks_bind asks_pure asks_query asks_lift OkOnly)

variable (m : Migrator) (folder : Folder) (target : Option Version)

/-- A statement that binds nothing but what a record of a discovered migration binds. -/
def BindsRecord (q : Statement) : Prop :=
  q.params = [] ∨ ∃ x ∈ m.found folder, q = m.table.record x.version x.name

theorem asks_report {p : Statement → Prop} (e : Event) :
    (report e).run.Asks p (OkOnly fun _ => True) :=
  fun _ _ => trivial

theorem asks_decided {α : Type} {p : Statement → Prop} (r : Except MigrationError α) :
    (decided r).run.Asks p (OkOnly fun _ => True) :=
  fun _ _ => trivial

/-! ### Reading -/

theorem asks_ensure : m.ensure.run.Asks (m.BindsRecord folder) (OkOnly fun _ => True) :=
  asks_bind (asks_query (.inl rfl)) fun _ _ => asks_pure trivial

theorem asks_applied : m.applied.run.Asks (m.BindsRecord folder) (OkOnly fun _ => True) :=
  asks_bind (m.asks_ensure folder) fun _ _ =>
    asks_bind (asks_query (.inl rfl)) fun _ _ => asks_decided _

theorem asks_readEntries (p : Statement → Prop) (names : List EntryName) :
    (m.readEntries names).Asks p
      fun l => l = names.filterMap fun name => (m.ofEntry name).toOption := by
  induction names with
  | nil => rfl
  | cons name names ih =>
    unfold readEntries
    rw [List.filterMap_cons]
    cases m.ofEntry name with
    | ok x => exact Job.Asks.bind (ih.mono fun l hl => congrArg (x :: ·) hl)
    | error why => exact ih

theorem asks_discover (p : Statement → Prop) :
    (m.discover folder).run.Asks p (OkOnly (· = m.found folder)) := by
  unfold discover
  cases folder with
  | error why =>
    intro l hl
    cases hl
  | ok es =>
    refine asks_bind (asks_lift (m.asks_readEntries p _)) ?_
    rintro _ rfl
    exact asks_pure rfl

theorem asks_pending : (m.pending folder target).run.Asks (m.BindsRecord folder)
    (OkOnly fun l => ∀ x ∈ l, x ∈ m.found folder) := by
  have hversions : m.appliedVersions.run.Asks (m.BindsRecord folder) (OkOnly fun _ => True) :=
    asks_bind (m.asks_applied folder) fun _ _ => asks_pure trivial
  -- the answers decide which of the discovered migrations are pending, and nothing more
  refine asks_bind hversions fun versions _ => asks_bind (m.asks_discover folder _) ?_
  rintro _ rfl
  exact asks_pure fun x hx => (List.mem_filter.mp hx).1

/-! ### Applying -/

variable {m folder} {x : Migration}

theorem asks_applyWork (hx : x ∈ m.found folder) (sql : String) :
    (m.applyWork x sql).run.Asks (m.BindsRecord folder) := by
  have hrecord : (m.recordVersion x.version x.name).run.Asks (m.BindsRecord folder) :=
    Work.asks_bind (Work.asks_tell _) fun _ =>
      Work.asks_bind (Work.asks_query (.inr ⟨x, hx, rfl⟩)) fun _ => trivial
  unfold applyWork
  split
  · exact Work.asks_bind (Work.asks_tell _) fun _ => hrecord
  · exact Work.asks_bind (Work.asks_query (.inl rfl)) fun _ => hrecord

theorem asks_apply (hx : x ∈ m.found folder) :
    (m.apply folder x).run.Asks (m.BindsRecord folder) (OkOnly fun _ => True) := by
  unfold apply
  split
  · exact fun _ _ => trivial
  · exact Job.asks_transaction (asks_applyWork hx _)

/-- **A run** records what is among the migrations to be applied. -/
theorem asks_applyAll (finished l : List Migration) (hl : ∀ x ∈ l, x ∈ m.found folder) :
    (m.applyAll folder finished l).run.Asks (m.BindsRecord folder) (OkOnly fun _ => True) := by
  induction l generalizing finished with
  | nil => exact asks_pure trivial
  | cons x rest ih =>
    rw [List.forall_mem_cons] at hl
    unfold applyAll
    refine asks_bind (asks_report _) fun _ _ => ?_
    refine asks_bind (asks_lift ((asks_apply hl.1).mono fun _ _ => trivial)) fun r _ => ?_
    cases r with
    | error why => exact asks_bind (asks_report _) fun _ _ => fun _ _ => trivial
    | ok u => exact asks_bind (asks_report _) fun _ _ => ih (finished ++ [x]) hl.2

variable (m folder)

/-- **A call of `migrate`** binds values only in records of discovered migrations, whatever it is
answered. -/
theorem asks_migrate : (m.migrate folder target).run.Asks (m.BindsRecord folder)
    (OkOnly fun _ => True) := by
  refine asks_bind (m.asks_ensure folder) fun _ _ =>
    asks_bind (m.asks_pending folder target) fun pending hpending => ?_
  split
  · exact asks_bind (asks_report _) fun _ _ => asks_applyAll [] pending hpending
  · exact asks_applyAll [] pending hpending

/-! ## Versions that fit -/

/-- **Versions fit up to the highest number of 32 bits.**  A call of `migrate` binds values only in
records of discovered migrations, each of them of the version that is read off its file name.  The
versions that are read off file names are all of 64 bits that are not below zero, and the column that
is created for them, whatever the table is called, can hold one exactly if it is no higher than
2147483647. -/
theorem bound_versions_fit_iff (m : Migrator) (folder : Folder) (target : Option Version) :
    ((m.migrate folder target).run.Asks (m.BindsRecord folder) fun _ => True) ∧
    (∀ x ∈ m.found folder, FileName.parse? x.fileName = some (x.version, x.name)) ∧
    (∀ version : Version, (∃ file name, FileName.parse? file = some (version, name)) ↔
      0 ≤ version.toInt) ∧
    ∀ file version name, FileName.parse? file = some (version, name) →
      (m.table.Fits version ↔ version.toInt ≤ 2147483647) := by
  refine ⟨(m.asks_migrate folder target).mono fun _ _ => trivial,
    fun x hx => parse?_of_mem_found hx, fun version => ⟨?_, fun h => ?_⟩,
    fun file version name h => ?_⟩
  · rintro ⟨file, name, h⟩
    exact FileName.nonneg_of_parse? h
  · exact ⟨_, "a", FileName.parse?_fileName h (by decide) (by decide)⟩
  · have hlow : -2147483648 ≤ version.toInt := by
      have hnonneg := FileName.nonneg_of_parse? h
      omega
    rw [TrackingTable.fits_iff]
    exact and_iff_right hlow

/-- A call of `migrate` on an empty table applies a migration of a version that does not fit. -/
theorem migrate_binds_version_beyond_column :
    let m : Migrator := { directory := "migrations" }
    let folder : Folder :=
      .ok [(Text.Utf8.encode "2147483648_a.sql".toList, .file (.text "SELECT 1"))]
    let s : Store := { clock := ⟨⟨2024, 1, 1⟩, 0, 0, 0, 0⟩ }
    FileName.parse? "2147483648_a.sql" = some (2147483648, "a") ∧
      (attempt m.table s (m.migrate folder none)).1 =
        .ok [⟨2147483648, "a", "migrations/2147483648_a.sql", "2147483648_a.sql"⟩] ∧
      (attempt m.table s (m.migrate folder none)).2.tracked.ledger.entries = [(2147483648, "a")] ∧
      ¬m.table.Fits 2147483648 := by
  intro m folder s
  have hfound : m.found folder =
      [⟨2147483648, "a", "migrations/2147483648_a.sql", "2147483648_a.sql"⟩] := by
    cbv
  obtain ⟨journal, hr⟩ := m.attempt_migrate_of_canRead folder s none rfl rfl
  rw [hfound] at hr
  refine ⟨by decide +kernel, ?_, ?_, ?_⟩
  · rw [hr]
    rfl
  · rw [hr]
    rfl
  · rw [TrackingTable.fits_iff]
    decide

end Migrator

end SchemaKit
