import SchemaKit.Proofs.Moments

/-!
# Conflicts

A transaction decides on the table as it was when the transaction began, but its changes are made on
the table as it is when the transaction is committed.  In between anything may happen to the store
outside the transaction.  Whether the changes can be made then is decided version by version: once a
version has been changed by the transaction, both tables agree in it, so that only the first change
of a version can be refused, and only if it records what is recorded already
(`TrackingOp.Clashes`, `Tracked.settles_of_applyAll`).
-/

namespace SchemaKit

/-! ## What a ledger contains after a change -/

namespace Ledger

variable {l : Ledger} {a : Applied} {v : Int64}

theorem contains_put (h : l.contains a.version = false) :
    (l.put a).contains v = (decide (a.version = v) || l.contains v) := by
  have hversions : (l.put a).versions.Perm (l.versions ++ [a.version]) := by
    have hperm := (records_put_perm h).map Applied.version
    rwa [List.map_append] at hperm
  rw [Bool.eq_iff_iff, contains_iff, hversions.mem_iff, List.mem_append, List.mem_singleton,
    Bool.or_eq_true, decide_eq_true_eq, contains_iff, or_comm, eq_comm]

theorem contains_erase (w : Int64) : (l.erase w).contains v = (decide (v ≠ w) && l.contains v) := by
  rw [Bool.eq_iff_iff, Bool.and_eq_true, decide_eq_true_eq]
  simp only [contains, erase, List.any_eq_true, List.mem_filter, decide_eq_true_eq]
  constructor
  · rintro ⟨b, ⟨hb, hne⟩, rfl⟩
    exact ⟨hne, b, hb, rfl⟩
  · rintro ⟨hne, b, hb, rfl⟩
    exact ⟨b, ⟨hb, hne⟩, rfl⟩

end Ledger

/-! ## Clashes -/

namespace TrackingOp

def version? : TrackingOp → Option Int64
  | record version _ => some version
  | remove version => some version
  | create => none
  | select => none

/-- The first operation that records or removes a version. -/
def first? (v : Int64) (ops : List TrackingOp) : Option TrackingOp :=
  ops.find? fun op => op.version? = some v

/-- Operations clash with a ledger in a version: it is recorded there, and the first of them that
changes it records it. -/
def Clashes (l : Ledger) (ops : List TrackingOp) (v : Int64) : Prop :=
  l.contains v = true ∧ ∃ name, first? v ops = some (record v name)

variable {l l' : Ledger} {op : TrackingOp} {ops : List TrackingOp} {v : Int64}

theorem first?_cons_of_ne (h : op.version? ≠ some v) : first? v (op :: ops) = first? v ops :=
  List.find?_cons_of_neg (by simpa using h)

theorem first?_cons_of_eq (h : op.version? = some v) : first? v (op :: ops) = some op :=
  List.find?_cons_of_pos (by simpa using h)

theorem not_clashes_nil : ¬Clashes l [] v := by
  rintro ⟨-, name, h⟩
  cases h

/-- An operation does not matter to the clashes in other versions. -/
theorem clashes_cons_iff (h : op.version? ≠ some v) (hl : l'.contains v = l.contains v) :
    Clashes l (op :: ops) v ↔ Clashes l' ops v := by
  unfold Clashes
  rw [first?_cons_of_ne h, hl]

end TrackingOp

namespace Tracked

open TrackingOp (Clashes first?)

variable {t : TrackingTable} {moment : Timestamp} {a a' s s' : Tracked} {rows : List Row}
  {op : TrackingOp} {ops : List TrackingOp}

/-! ## Making changes -/

/-- Makes a change without asking whether it can be made. -/
def change (moment : Timestamp) (s : Tracked) : TrackingOp → Tracked
  | .create => { s with created := true }
  | .select => s
  | .record version name => { s with ledger := s.ledger.put ⟨version, name, moment⟩ }
  | .remove version => { s with ledger := s.ledger.erase version }

/-- A table allows an operation: it is there, or is to be created, and what is to be recorded is
new. -/
structure Allows (s : Tracked) (op : TrackingOp) : Prop where
  created : op = .create ∨ s.created = true
  new : ∀ version name, op = .record version name → s.ledger.contains version = false

theorem apply_of_allows (h : s.Allows op) :
    ∃ rows, s.apply t moment op = .ok (rows, s.change moment op) := by
  obtain ⟨hcreated, hnew⟩ := h
  cases op with
  | create => exact ⟨_, rfl⟩
  | select =>
    have hs : s.created = true := hcreated.resolve_left (by simp)
    exact ⟨s.ledger.records.map Applied.toRow, by simp [apply, change, hs]⟩
  | record version name =>
    have hs : s.created = true := hcreated.resolve_left (by simp)
    exact ⟨[], by simp [apply, change, hs, hnew version name rfl]⟩
  | remove version =>
    have hs : s.created = true := hcreated.resolve_left (by simp)
    exact ⟨[], by simp [apply, change, hs]⟩

theorem allows_of_apply (h : s.apply t moment op = .ok (rows, s')) :
    s.Allows op ∧ s' = s.change moment op := by
  cases op with
  | create => exact ⟨⟨.inl rfl, by simp⟩, (congrArg Prod.snd (Except.ok.inj h)).symm⟩
  | select =>
    simp only [apply] at h
    split at h
    · rename_i hs
      exact ⟨⟨.inr hs, by simp⟩, (congrArg Prod.snd (Except.ok.inj h)).symm⟩
    · cases h
  | record version name =>
    simp only [apply] at h
    split at h
    swap
    · cases h
    rename_i hs
    split at h
    · cases h
    · rename_i hnew
      refine ⟨⟨.inr hs, ?_⟩, (congrArg Prod.snd (Except.ok.inj h)).symm⟩
      rintro _ _ ⟨⟩
      exact Bool.not_eq_true _ ▸ hnew
  | remove version =>
    simp only [apply] at h
    split at h
    · rename_i hs
      exact ⟨⟨.inr hs, by simp⟩, (congrArg Prod.snd (Except.ok.inj h)).symm⟩
    · cases h

/-- Operations that can all be done make their changes in order. -/
theorem applyAll_eq_ok (h : s.applyAll t moment ops = .ok s') :
    s' = ops.foldl (change moment) s := by
  induction ops generalizing s with
  | nil => exact (Except.ok.inj h).symm
  | cons op ops ih =>
    simp only [applyAll] at h
    split at h
    · rename_i rows u hu
      rw [List.foldl_cons, ← (allows_of_apply hu).2]
      exact ih h
    · cases h

theorem created_change (h : s.created = true) : (s.change moment op).created = true := by
  cases op with
  | create => rfl
  | select => exact h
  | record version name => exact h
  | remove version => exact h

/-- After an operation that a table allows, the table is there. -/
theorem Allows.created_change (h : s.Allows op) : (s.change moment op).created = true := by
  rcases h.created with rfl | hs
  · rfl
  · exact Tracked.created_change hs

/-- An operation on one version leaves the others alone. -/
theorem Allows.contains_of_ne {v : Int64} (h : s.Allows op) (hv : op.version? ≠ some v) :
    (s.change moment op).ledger.contains v = s.ledger.contains v := by
  cases op with
  | create => rfl
  | select => rfl
  | record version name =>
    have hne : version ≠ v := fun e => hv (congrArg some e)
    have hput := Ledger.contains_put (a := ⟨version, name, moment⟩) (v := v) (h.new version name rfl)
    rwa [decide_eq_false hne, Bool.false_or] at hput
  | remove version =>
    have hne : v ≠ version := fun e => hv (congrArg some e.symm)
    have herase := Ledger.contains_erase (l := s.ledger) (v := v) version
    rwa [decide_eq_true hne, Bool.true_and] at herase

/-- In its own version the outcome of an operation does not depend on the table. -/
theorem Allows.contains_of_eq {v : Int64} (ha : a.Allows op) (hs : s.Allows op)
    (hv : op.version? = some v) :
    (a.change moment op).ledger.contains v = (s.change moment op).ledger.contains v := by
  cases op with
  | create => cases hv
  | select => cases hv
  | record version name =>
    obtain rfl : version = v := Option.some.inj hv
    have hput : ∀ {u : Tracked}, u.Allows (.record version name) →
        (u.ledger.put ⟨version, name, moment⟩).contains version = true := fun hu => by
      rw [Ledger.contains_put (hu.new version name rfl), decide_eq_true rfl, Bool.true_or]
    exact (hput ha).trans (hput hs).symm
  | remove version =>
    obtain rfl : version = v := Option.some.inj hv
    have herase : ∀ u : Tracked, (u.ledger.erase version).contains version = false := fun u => by
      rw [Ledger.contains_erase, decide_eq_false (by simp), Bool.false_and]
    exact (herase a).trans (herase s).symm

/-! ## The same operations on another table -/

/-- What comes of operations on a table that is known to allow the changes of some versions: all are
done, and there is no clash in other versions; or they stop at the first clash there is. -/
def Settles (t : TrackingTable) (moment : Timestamp) (s : Tracked) (known : List Int64)
    (ops : List TrackingOp) : Prop :=
  (∃ s', s.applyAll t moment ops = .ok s' ∧ ∀ v ∉ known, ¬Clashes s.ledger ops v) ∨
  ∃ before v name after, ops = before ++ .record v name :: after ∧
    v ∉ known ∧ s.ledger.contains v = true ∧ first? v before = none ∧
    (∀ w ∉ known, ¬Clashes s.ledger before w) ∧
    s.applyAll t moment ops = .error (.duplicateVersion v)

/-- **One operation** that is allowed: from then on its version is known. -/
theorem Settles.cons {known : List Int64} (hs : s.Allows op)
    (h : (s.change moment op).Settles t moment (op.version?.toList ++ known) ops) :
    s.Settles t moment known (op :: ops) := by
  obtain ⟨rows, happly⟩ : ∃ rows, s.apply t moment op = .ok (rows, s.change moment op) :=
    apply_of_allows hs
  have hunknown : ∀ {w}, w ∉ known → op.version? ≠ some w → w ∉ op.version?.toList ++ known := by
    intro w hw hne
    rw [List.mem_append, Option.mem_toList, not_or]
    exact ⟨hne, hw⟩
  -- an allowed operation clashes with nothing, so that all clashes are with what follows
  have hclashes : ∀ {rest : List TrackingOp},
      (∀ w ∉ op.version?.toList ++ known, ¬Clashes (s.change moment op).ledger rest w) →
      ∀ w ∉ known, ¬Clashes s.ledger (op :: rest) w := by
    intro rest hrest w hw hclash
    by_cases hv : op.version? = some w
    · obtain ⟨hcontains, name, hfirst⟩ := hclash
      rw [TrackingOp.first?_cons_of_eq hv] at hfirst
      rw [hs.new w name (Option.some.inj hfirst)] at hcontains
      cases hcontains
    · rw [TrackingOp.clashes_cons_iff hv (hs.contains_of_ne hv)] at hclash
      exact hrest w (hunknown hw hv) hclash
  have hall : s.applyAll t moment (op :: ops) = (s.change moment op).applyAll t moment ops := by
    simp only [applyAll, happly]
  rcases h with ⟨u, hu, hno⟩ | ⟨before, v, name, after, rfl, hv, hcontains, hfirst, hno, he⟩
  · exact .inl ⟨u, hall.trans hu, hclashes hno⟩
  · rw [List.mem_append, Option.mem_toList, not_or] at hv
    refine .inr ⟨op :: before, v, name, after, rfl, hv.2, ?_, ?_, hclashes hno, hall.trans he⟩
    · rw [← hs.contains_of_ne hv.1]
      exact hcontains
    · rw [TrackingOp.first?_cons_of_ne hv.1]
      exact hfirst

/-- **The same operations on another table.**  Let operations be possible on a table `a`, and let a
table `s` be there if `a` is, and contain what `a` contains as far as some versions go that are
known.  Then the operations settle on `s`. -/
theorem settles_of_applyAll {b : Tracked} {known : List Int64}
    (h : a.applyAll t moment ops = .ok b) (hcreated : a.created = true → s.created = true)
    (hknown : ∀ v ∈ known, a.ledger.contains v = s.ledger.contains v) :
    s.Settles t moment known ops := by
  induction ops generalizing a s known with
  | nil => exact .inl ⟨s, rfl, fun v _ => TrackingOp.not_clashes_nil⟩
  | cons op ops ih =>
    simp only [applyAll] at h
    split at h
    swap
    · cases h
    rename_i rows a' happly
    obtain ⟨ha, rfl⟩ := allows_of_apply happly
    have hthere : op = .create ∨ s.created = true := ha.created.imp_right hcreated
    by_cases hclash : ∃ version name, op = .record version name ∧ s.ledger.contains version = true
    · -- the tables disagree in the version, so it is not known, and this is the first clash
      obtain ⟨version, name, rfl, hcontains⟩ := hclash
      have hunknown : version ∉ known := fun hv => by
        have hsame := hknown version hv
        rw [ha.new version name rfl, hcontains] at hsame
        cases hsame
      refine .inr ⟨[], version, name, ops, rfl, hunknown, hcontains, rfl,
        fun w _ => TrackingOp.not_clashes_nil, ?_⟩
      have hs : s.created = true := hthere.resolve_left (by simp)
      simp only [applyAll, apply, hs, hcontains, if_true]
    · have hs : s.Allows op := by
        refine ⟨hthere, fun version name hop => ?_⟩
        by_contra hcontains
        exact hclash ⟨version, name, hop, Bool.not_eq_false _ ▸ hcontains⟩
      refine Settles.cons hs (ih h (fun _ => hs.created_change) fun v hv => ?_)
      by_cases hop : op.version? = some v
      · exact ha.contains_of_eq hs hop
      · rw [List.mem_append, Option.mem_toList] at hv
        rw [ha.contains_of_ne hop, hs.contains_of_ne hop]
        exact hknown v (hv.resolve_left hop)

end Tracked

end SchemaKit
