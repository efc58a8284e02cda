import SchemaKit.Store.Tracking

/-!
# Statements of a tracking table

A tracking table has a text for each purpose.  The letter that a text begins with tells what it is
for, and what stands behind it tells the table, so no text of a table is any other text of any table
(`TrackingTable.text_inj`).  Therefore a table makes of a text what the text is for if it is its own,
and nothing if it is another table's (`TrackingOp.ofStatement_text`).  A text that binds no values can
create or read the table but never change its records: the two texts that write are refused without
the values they write.
-/

namespace SchemaKit

/-! ## The texts -/

namespace TrackingTable

/-- What a text of a tracking table is for. -/
inductive Purpose where
  | create
  | select
  | record
  | forget
deriving DecidableEq

/-- The letter that the texts for a purpose begin with. -/
def Purpose.letter : Purpose → Char
  | .create => 'C'
  | .select => 'S'
  | .record => 'I'
  | .forget => 'D'

theorem Purpose.letter_inj {p q : Purpose} : p.letter = q.letter ↔ p = q := by
  cases p <;> cases q <;> decide

variable (t : TrackingTable)

def text : Purpose → String
  | .create => t.createText
  | .select => t.selectText
  | .record => t.insertText
  | .forget => t.deleteText

theorem head?_text (p : Purpose) : (t.text p).toList.head? = some p.letter := by
  cases p <;>
    · delta text createText selectText insertText deleteText Purpose.letter
      simp

theorem name_inj {t u : TrackingTable} : t.name = u.name ↔ t = u := by
  cases t
  cases u
  simp

/-- **A text tells its table and its purpose.** -/
theorem text_inj {t u : TrackingTable} {p q : Purpose} : t.text p = u.text q ↔ t = u ∧ p = q := by
  constructor
  · intro h
    have hletter : some p.letter = some q.letter := by rw [← t.head?_text, h, u.head?_text]
    obtain rfl := Purpose.letter_inj.mp (Option.some.inj hletter)
    -- texts for one purpose differ in nothing but the name
    have hname : t.name = u.name := by
      cases p <;>
        · delta text createText selectText insertText deleteText at h
          simpa only [String.append_left_inj, String.append_right_inj] using h
    exact ⟨name_inj.mp hname, rfl⟩
  · rintro ⟨rfl, rfl⟩
    rfl

/-- The statements that texts without values leave in the log when they are run in order.  An empty
text is no statement, and the texts that create and read the table are understood and not logged. -/
def logged (texts : List String) : List Statement :=
  (texts.filter fun sql => sql ≠ "" ∧ sql ≠ t.createText ∧ sql ≠ t.selectText).map fun sql =>
    ⟨sql, []⟩

@[simp] theorem logged_nil : t.logged [] = [] := rfl

theorem logged_append (texts texts' : List String) :
    t.logged (texts ++ texts') = t.logged texts ++ t.logged texts' := by
  simp only [logged, List.filter_append, List.map_append]

@[simp] theorem logged_empty_text : t.logged [""] = [] := rfl

@[simp] theorem logged_createText : t.logged [t.createText] = [] := by
  simp [logged]

@[simp] theorem logged_selectText : t.logged [t.selectText] = [] := by
  simp [logged]

theorem logged_singleton {sql : String} (h : sql ≠ "") (hc : sql ≠ t.createText)
    (hs : sql ≠ t.selectText) : t.logged [sql] = [⟨sql, []⟩] := by
  simp [logged, h, hc, hs]

end TrackingTable

/-! ## Recognising them -/

namespace TrackingOp

open TrackingTable (Purpose text_inj)

/-- What is recorded with some values: a version and a name, if these are bound and nothing else. -/
def recordOf? : List Value → Option TrackingOp
  | [.int version, .text name] => some (record version name)
  | _ => none

/-- What is forgotten with some values: a version, if this is bound and nothing else. -/
def removeOf? : List Value → Option TrackingOp
  | [.int version] => some (remove version)
  | _ => none

theorem recordOf?_eq_none_iff {params : List Value} :
    recordOf? params = none ↔ ¬∃ version name, params = [.int version, .text name] := by
  unfold recordOf?
  split <;> simp_all

theorem removeOf?_eq_none_iff {params : List Value} :
    removeOf? params = none ↔ ¬∃ version, params = [.int version] := by
  unfold removeOf?
  split <;> simp_all

/-- The operation that a text for a purpose asks for with some values bound.  A text that writes must
bind what it writes; what any other binds is not looked at. -/
def ofParams? : Purpose → List Value → Option TrackingOp
  | .create, _ => some create
  | .select, _ => some select
  | .record, params => recordOf? params
  | .forget, params => removeOf? params

variable (t : TrackingTable)

/-- **What a table makes of a text**: nothing of that of another table, and of its own what it is
for, unless other values are bound than it writes. -/
theorem ofStatement_text (u : TrackingTable) (p : Purpose) (params : List Value) :
    ofStatement t ⟨u.text p, params⟩ =
      if t = u then
        match ofParams? p params with
        | some op => .ok (some op)
        | none => .error (.badParameters (u.text p))
      else .ok none := by
  -- a text is compared with those of the table in this order
  show (if u.text p = t.text .create then _ else if u.text p = t.text .select then _
    else if u.text p = t.text .record then _ else if u.text p = t.text .forget then _ else _) = _
  simp only [text_inj]
  by_cases h : t = u
  · subst h
    simp only [true_and, if_true]
    cases p with
    | create => rfl
    | select => rfl
    | record =>
      simp only [reduceCtorEq, if_false, if_true, ofParams?, recordOf?]
      split <;> simp_all
    | forget =>
      simp only [reduceCtorEq, if_false, if_true, ofParams?, removeOf?]
      split <;> simp_all
  · simp only [h, Ne.symm h, false_and, if_false]

variable {t} in
theorem ofStatement_eq_none_iff {q : Statement} :
    ofStatement t q = .ok none ↔ ∀ p, q.sql ≠ t.text p := by
  constructor
  · intro h p htext
    obtain ⟨sql, params⟩ := q
    obtain rfl : sql = t.text p := htext
    rw [ofStatement_text, if_pos rfl] at h
    cases hop : ofParams? p params with
    | none =>
      rw [hop] at h
      cases h
    | some op =>
      rw [hop] at h
      cases Except.ok.inj h
  · intro h
    have hc : q.sql ≠ t.createText := h .create
    have hs : q.sql ≠ t.selectText := h .select
    have hi : q.sql ≠ t.insertText := h .record
    have hd : q.sql ≠ t.deleteText := h .forget
    rw [ofStatement, if_neg hc, if_neg hs, if_neg hi, if_neg hd]

theorem ofStatement_create : ofStatement t t.create = .ok (some create) :=
  (ofStatement_text t t .create []).trans (if_pos rfl)

theorem ofStatement_select : ofStatement t t.select = .ok (some select) :=
  (ofStatement_text t t .select []).trans (if_pos rfl)

theorem ofStatement_record (version : Int64) (name : String) :
    ofStatement t (t.record version name) = .ok (some (record version name)) :=
  (ofStatement_text t t .record _).trans (if_pos rfl)

theorem ofStatement_forget (version : Int64) :
    ofStatement t (t.forget version) = .ok (some (remove version)) :=
  (ofStatement_text t t .forget _).trans (if_pos rfl)

/-- **No text forges a record**: what binds no values is refused, or creates or reads the table, or
is none of its statements. -/
theorem ofStatement_script {sql : String} {op : Option TrackingOp}
    (h : ofStatement t ⟨sql, []⟩ = .ok op) :
    (op = some create ∧ sql = t.createText) ∨ (op = some select ∧ sql = t.selectText) ∨
      (op = none ∧ sql ≠ t.createText ∧ sql ≠ t.selectText) := by
  by_cases htext : ∃ p, sql = t.text p
  · obtain ⟨p, rfl⟩ := htext
    rw [ofStatement_text, if_pos rfl] at h
    cases p with
    | create => exact .inl ⟨(Except.ok.inj h).symm, rfl⟩
    | select => exact .inr (.inl ⟨(Except.ok.inj h).symm, rfl⟩)
    | record => cases h
    | forget => cases h
  · have hne : ∀ p, sql ≠ t.text p := not_exists.mp htext
    rw [ofStatement_eq_none_iff.mpr hne] at h
    exact .inr (.inr ⟨(Except.ok.inj h).symm, hne .create, hne .select⟩)

/-- **Statements decode to the operations that they encode**, if they are the table's own, and to none
if they are another table's.  What creates or reads a table may bind anything, and what another table
writes is passed over with any values.  No two texts of a table are the same, and none is a text of
another table.  The two texts that write are refused, and named in the refusal, exactly if other
values are bound than they write: a version and a name to record, a version to forget. -/
theorem own_statements_decode (t u : TrackingTable) :
    let own (op : TrackingOp) : Except StoreError (Option TrackingOp) :=
      .ok (if t = u then some op else none)
    (∀ params, ofStatement t ⟨u.createText, params⟩ = own create) ∧
    (∀ params, ofStatement t ⟨u.selectText, params⟩ = own select) ∧
    (∀ version name, ofStatement t (u.record version name) = own (record version name)) ∧
    (∀ version, ofStatement t (u.forget version) = own (remove version)) ∧
    (∀ p params, ofStatement t ⟨u.text p, params⟩ = .ok none ↔ t ≠ u) ∧
    (∀ p q, t.text p = u.text q ↔ t = u ∧ p = q) ∧
    (∀ params, ofStatement t ⟨t.insertText, params⟩ = .error (.badParameters t.insertText) ↔
      ¬∃ version name, params = [.int version, .text name]) ∧
    ∀ params, ofStatement t ⟨t.deleteText, params⟩ = .error (.badParameters t.deleteText) ↔
      ¬∃ version, params = [.int version] := by
  intro own
  have hown : ∀ p params op, ofParams? p params = some op →
      ofStatement t ⟨u.text p, params⟩ = own op := by
    intro p params op hop
    rw [ofStatement_text, hop]
    unfold own
    split <;> rfl
  have hrefused : ∀ p params, ofStatement t ⟨t.text p, params⟩ = .error (.badParameters (t.text p)) ↔
      ofParams? p params = none := by
    intro p params
    rw [ofStatement_text, if_pos rfl]
    cases ofParams? p params <;> simp
  refine ⟨fun params => hown .create params _ rfl, fun params => hown .select params _ rfl,
    fun version name => hown .record _ _ rfl, fun version => hown .forget _ _ rfl,
    fun p params => ?other, fun p q => text_inj,
    fun params => (hrefused .record params).trans recordOf?_eq_none_iff,
    fun params => (hrefused .forget params).trans removeOf?_eq_none_iff⟩
  case other =>
    rw [ofStatement_eq_none_iff]
    simp only [ne_eq, text_inj]
    constructor
    · rintro h rfl
      exact h p ⟨rfl, rfl⟩
    · rintro h q ⟨rfl, -⟩
      exact h rfl

end TrackingOp

end SchemaKit
