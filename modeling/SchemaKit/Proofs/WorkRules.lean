import SchemaKit.Proofs.Books
import SchemaKit.Proofs.Transaction

/-!
# Rules for work on books

`Work.Does t s w f` says that a piece of work `w`, done inside a transaction on a store like `s`,
does to the books that the transaction shows what the function `f` does to books, and that it fails
when and as `f` fails.  There is one rule for each way of building work, and `Work.Does.transact`
carries the work over to the store when the transaction ends.
-/

namespace SchemaKit

/-! ## What single statements do to books -/

namespace Books

variable (t : TrackingTable) (s : Store)

/-- Running a text that binds no values. -/
def script (sql : String) (b : Books) : Except StoreError Books := do
  let _ ← s.classify t ⟨sql, []⟩
  return ⟨b.ledger, b.log ++ t.logged [sql]⟩

/-- Recording a version, which has to be new. -/
def record (version : Int64) (name : String) (b : Books) : Except StoreError Books := do
  let _ ← s.classify t (t.record version name)
  if b.ledger.contains version then throw (.duplicateVersion version)
  return ⟨b.ledger.put ⟨version, name, s.clock⟩, b.log⟩

def forget (version : Int64) (b : Books) : Except StoreError Books := do
  let _ ← s.classify t (t.forget version)
  return ⟨b.ledger.erase version, b.log⟩

variable {t s} {b b' : Books}

theorem script_eq_ok {sql : String} (h : script t s sql b = .ok b') :
    b' = ⟨b.ledger, b.log ++ t.logged [sql]⟩ := by
  unfold script at h
  cases hc : s.classify t ⟨sql, []⟩ with
  | error e => rw [hc] at h; cases h
  | ok op => rw [hc] at h; exact (Except.ok.inj h).symm

theorem record_eq_ok {version : Int64} {name : String} (h : record t s version name b = .ok b') :
    b.ledger.contains version = false ∧
      b' = ⟨b.ledger.put ⟨version, name, s.clock⟩, b.log⟩ := by
  unfold record at h
  cases hc : s.classify t (t.record version name) with
  | error e => rw [hc] at h; cases h
  | ok op =>
    rw [hc] at h
    cases hv : b.ledger.contains version with
    | true => rw [hv] at h; cases h
    | false => rw [hv] at h; exact ⟨rfl, (Except.ok.inj h).symm⟩

theorem record_eq_error {version : Int64} {name : String} {op : Option TrackingOp} {e : StoreError}
    (hc : s.classify t (t.record version name) = .ok op) (h : record t s version name b = .error e) :
    b.ledger.contains version = true ∧ e = .duplicateVersion version := by
  rw [record, hc] at h
  cases hv : b.ledger.contains version with
  | true => rw [hv] at h; exact ⟨rfl, (Except.error.inj h).symm⟩
  | false => rw [hv] at h; cases h

theorem forget_eq_ok {version : Int64} (h : forget t s version b = .ok b') :
    b' = ⟨b.ledger.erase version, b.log⟩ := by
  unfold forget at h
  cases hc : s.classify t (t.forget version) with
  | error e => rw [hc] at h; cases h
  | ok op => rw [hc] at h; exact (Except.ok.inj h).symm

end Books

/-! ## What a transaction shows -/

/-- A transaction on a store with the given log shows books: it sees the table with their records,
and what it has buffered leads from the log to theirs. -/
def Transaction.Shows (tx : Transaction) (log : List Statement) (b : Books) : Prop :=
  tx.shadow = ⟨true, b.ledger⟩ ∧ log ++ tx.statements = b.log

namespace Work

variable {α β : Type} {t : TrackingTable} {s : Store}

/-- A piece of work does to the books of its transaction what a function does to books. -/
def Does (t : TrackingTable) (s : Store) (w : ExceptT StoreError Work α)
    (f : Books → Except StoreError Books) : Prop :=
  ∀ (tx : Transaction) (base : Books) (journal : List Event) (b : Books), tx.table = t →
    tx.Shows base.log b →
    (∀ b', f b = .ok b' → ∃ a tx' journal', attempt tx (s.holding base journal) w =
      (.ok a, tx', s.holding base journal') ∧ tx'.table = t ∧ tx'.Shows base.log b') ∧
    (∀ e, f b = .error e → ∃ tx' journal', attempt tx (s.holding base journal) w =
      (.error e, tx', s.holding base journal'))

theorem does_pure (a : α) : Does t s (pure a) pure := by
  intro tx base journal b ht hb
  refine ⟨?_, fun e h => by cases h⟩
  rintro b' ⟨⟩
  exact ⟨a, tx, journal, rfl, ht, hb⟩

theorem does_tell (e : Event) : Does t s (tell e) pure := by
  intro tx base journal b ht hb
  refine ⟨?_, fun e h => by cases h⟩
  rintro b' ⟨⟩
  exact ⟨(), tx, journal ++ [e], rfl, ht, hb⟩

theorem Does.bind {w : ExceptT StoreError Work α} {k : α → ExceptT StoreError Work β}
    {f g : Books → Except StoreError Books} (hw : Does t s w f) (hk : ∀ a, Does t s (k a) g) :
    Does t s (w >>= k) fun b => f b >>= g := by
  intro tx base journal b ht hb
  change (∀ b', f b >>= g = .ok b' → _) ∧ ∀ e, f b >>= g = .error e → _
  obtain ⟨hok, herror⟩ := hw tx base journal b ht hb
  cases hf : f b with
  | error e =>
    refine ⟨fun b' h => (by cases h), fun e' h => ?_⟩
    obtain rfl := Except.error.inj h
    obtain ⟨tx', journal', hw⟩ := herror e hf
    exact ⟨tx', journal', by rw [attempt_bind, hw]⟩
  | ok b' =>
    obtain ⟨a, tx', journal', hw, ht', hb'⟩ := hok b' hf
    rw [attempt_bind, hw]
    exact hk a tx' base journal' b' ht' hb'

theorem Does.congr {w : ExceptT StoreError Work α} {f g : Books → Except StoreError Books}
    (h : Does t s w f) (hfg : ∀ b, f b = g b) : Does t s w g :=
  funext hfg ▸ h

/-- What the work gives back does not matter to the books. -/
theorem Does.discard {w : ExceptT StoreError Work α} {f : Books → Except StoreError Books}
    (h : Does t s w f) : Does t s (do let _ ← w; pure ()) f :=
  (h.bind fun _ => does_pure ()).congr fun b => bind_pure (f b)

/-- A statement that the store refuses does nothing, so a rule for it need only be shown for a store
that takes it. -/
theorem does_query {q : Statement} {f : Books → Except StoreError Books}
    (hrefused : ∀ e, s.classify t q = .error e → ∀ b, f b = .error e)
    (htaken : ∀ op, s.classify t q = .ok op → Does t s (query q) f) : Does t s (query q) f := by
  cases hc : s.classify t q with
  | ok op => exact htaken op hc
  | error e =>
    have hf := hrefused e hc
    rintro tx base journal b rfl -
    refine ⟨fun b' h => ?_, fun e' h => ?_⟩
    · rw [hf] at h
      cases h
    · rw [hf] at h
      obtain rfl : e = e' := Except.error.inj h
      exact ⟨tx, journal, Transaction.execute_of_refused hc⟩

/-- **A text without values** leaves the records alone and goes to the log. -/
theorem does_script {sql : String} (hsql : sql ≠ "") :
    Does t s (query ⟨sql, []⟩) (Books.script t s sql) := by
  refine does_query (fun e he b => by rw [Books.script, he]; rfl) fun op hc => ?_
  rintro tx base journal b rfl ⟨hshadow, hlog⟩
  refine ⟨fun b' h => ?_, fun e h => ?_⟩
  · obtain rfl := Books.script_eq_ok h
    have hc' : (s.holding base journal).classify tx.table ⟨sql, []⟩ = .ok op := hc
    -- the text creates the table, or reads it, or is one to be logged
    rcases Store.classify_script hc with ⟨rfl, rfl⟩ | ⟨rfl, rfl⟩ | ⟨rfl, hne, hne'⟩
    · have ha : tx.shadow.apply tx.table s.clock .create = .ok ([], tx.shadow) := by
        rw [hshadow]
        rfl
      refine ⟨_, _, journal, Transaction.execute_of_op_ok hc' ha, rfl, hshadow, ?_⟩
      rw [TrackingTable.logged_createText, List.append_nil]
      exact hlog
    · have ha : tx.shadow.apply tx.table s.clock .select =
          .ok (b.ledger.records.map Applied.toRow, tx.shadow) := by
        rw [hshadow]
        rfl
      refine ⟨_, _, journal, Transaction.execute_of_op_ok hc' ha, rfl, hshadow, ?_⟩
      rw [TrackingTable.logged_selectText, List.append_nil]
      exact hlog
    · refine ⟨_, _, _, Transaction.execute_of_other hc', rfl, hshadow, ?_⟩
      rw [TrackingTable.logged_singleton _ hsql hne hne', ← hlog, List.append_assoc]
  · rw [Books.script, hc] at h
    cases h

/-- **Recording** puts the record of a new version into its place, and fails for any other. -/
theorem does_record (version : Int64) (name : String) :
    Does t s (query (t.record version name)) (Books.record t s version name) := by
  refine does_query (fun e he b => by rw [Books.record, he]; rfl) fun op hc => ?_
  rintro tx base journal b rfl ⟨hshadow, hlog⟩
  have hc' : (s.holding base journal).classify tx.table (tx.table.record version name) =
      .ok (some (.record version name)) := Store.classify_record hc
  refine ⟨fun b' h => ?_, fun e h => ?_⟩
  · obtain ⟨hv, rfl⟩ := Books.record_eq_ok h
    have ha : tx.shadow.apply tx.table s.clock (.record version name) =
        .ok ([], ⟨true, b.ledger.put ⟨version, name, s.clock⟩⟩) := by
      rw [hshadow]
      simp [Tracked.apply, hv]
    exact ⟨_, _, journal, Transaction.execute_of_op_ok hc' ha, rfl, rfl, hlog⟩
  · obtain ⟨hv, rfl⟩ := Books.record_eq_error hc h
    have ha : tx.shadow.apply tx.table s.clock (.record version name) =
        .error (.duplicateVersion version) := by
      rw [hshadow]
      simp [Tracked.apply, hv]
    exact ⟨tx, journal, Transaction.execute_of_op_error hc' ha⟩

/-- **Forgetting** takes the record of a version out, if there is one. -/
theorem does_forget (version : Int64) :
    Does t s (query (t.forget version)) (Books.forget t s version) := by
  refine does_query (fun e he b => by rw [Books.forget, he]; rfl) fun op hc => ?_
  rintro tx base journal b rfl ⟨hshadow, hlog⟩
  have hc' : (s.holding base journal).classify tx.table (tx.table.forget version) =
      .ok (some (.remove version)) := Store.classify_forget hc
  refine ⟨fun b' h => ?_, fun e h => ?_⟩
  · obtain rfl := Books.forget_eq_ok h
    have ha : tx.shadow.apply tx.table s.clock (.remove version) =
        .ok ([], ⟨true, b.ledger.erase version⟩) := by
      rw [hshadow]
      rfl
    exact ⟨_, _, journal, Transaction.execute_of_op_ok hc' ha, rfl, rfl, hlog⟩
  · rw [Books.forget, hc] at h
    cases h

/-- **A transaction of its own**: the store has the books that the work leads to, or those it had
if the work fails. -/
theorem Does.transact {w : ExceptT StoreError Work Unit} {f : Books → Except StoreError Books}
    (h : Does t s w f) (b : Books) (journal : List Event) :
    ∃ journal', w.run.transact t (s.holding b journal) =
      match f b with
      | .ok b' => (.ok (), s.holding b' journal')
      | .error e => (.error e, s.holding b journal') := by
  -- a transaction that has just been opened shows the books of its store
  obtain ⟨hok, herror⟩ := h (.start t (s.holding b journal)) b journal b rfl
    ⟨rfl, List.append_nil _⟩
  obtain ⟨journal', ht⟩ := transact_eq t (s.holding b journal) w.run
  refine ⟨journal', ht.trans ?_⟩
  cases hf : f b with
  | error e =>
    obtain ⟨tx', journal'', hw⟩ := herror e hf
    unfold attempt at hw
    rw [hw]
    rfl
  | ok b' =>
    obtain ⟨a, tx', journal'', hw, -, hshadow, hlog⟩ := hok b' hf
    unfold attempt at hw
    rw [hw]
    simp only [hshadow]
    rw [show (s.holding b journal).executed ++ tx'.statements = b'.log from hlog]
    rfl

end Work

end SchemaKit
