import SchemaKit.Sql.Rejection

/-!
# Identifiers

Names of tables, columns, schemas and indexes.  They cannot be bound as parameters, so `check` lets
through nothing but ASCII letters, digits and underscores, and no digit in front.  No case is
folded and no reserved word is looked for.
-/

namespace SchemaKit.Sql.Identifier

/-- A character that may begin an identifier. -/
def isLead (c : Char) : Bool :=
  c.isAlpha || c == '_'

/-- A character that may stand in an identifier after the first. -/
def isPart (c : Char) : Bool :=
  c.isAlphanum || c == '_'

/-- A letter or underscore, then letters, digits and underscores. -/
def isIdentifier (name : String) : Bool :=
  match name.toList with
  | [] => false
  | c :: rest => isLead c && rest.all isPart

/-- Hands an identifier back unchanged. -/
def check (name : String) : Except Rejection String :=
  if name = "" then .error .emptyIdentifier
  else if isIdentifier name then .ok name
  else .error (.invalidIdentifier name)

/-- Checks names in order and stops at the first bad one. -/
def checkAll : List String → Except Rejection Unit
  | [] => .ok ()
  | name :: names =>
    match check name with
    | .ok _ => checkAll names
    | .error r => .error r

/-- Checks the names that are present. -/
def checkPresent (names : List (Option String)) : Except Rejection Unit :=
  checkAll (names.filterMap id)

theorem isPart_of_isLead {c : Char} (h : isLead c = true) : isPart c = true := by
  simp only [isLead, isPart, Char.isAlphanum, Bool.or_eq_true] at h ⊢
  rcases h with h | h
  · exact .inl (.inl h)
  · exact .inr h

theorem isPart_of_isIdentifier {name : String} (h : isIdentifier name = true) :
    ∀ c ∈ name.toList, isPart c = true := by
  unfold isIdentifier at h
  cases hchars : name.toList with
  | nil => exact List.forall_mem_nil _
  | cons c rest =>
    rw [hchars, Bool.and_eq_true, List.all_eq_true] at h
    exact List.forall_mem_cons.mpr ⟨isPart_of_isLead h.1, h.2⟩

theorem isIdentifier_ne_empty {name : String} (h : isIdentifier name = true) : name ≠ "" := by
  rintro rfl
  exact absurd h (by decide)

theorem check_eq_ok_iff {name r : String} :
    check name = .ok r ↔ isIdentifier name = true ∧ r = name := by
  constructor
  · intro h
    unfold check at h
    by_cases he : name = ""
    · rw [if_pos he] at h
      cases h
    · rw [if_neg he] at h
      by_cases hi : isIdentifier name = true
      · rw [if_pos hi] at h
        exact ⟨hi, (Except.ok.inj h).symm⟩
      · rw [if_neg hi] at h
        cases h
  · rintro ⟨h, rfl⟩
    rw [check, if_neg (isIdentifier_ne_empty h), if_pos h]

theorem checkAll_eq_ok_iff {names : List String} :
    checkAll names = .ok () ↔ ∀ n ∈ names, isIdentifier n = true := by
  induction names with
  | nil => simp [checkAll]
  | cons n ns ih =>
    cases h : check n with
    | ok r =>
      have hn := (check_eq_ok_iff.1 h).1
      simp [checkAll, h, ih, hn]
    | error e =>
      have hn : isIdentifier n ≠ true := fun hn => by
        have := check_eq_ok_iff.2 ⟨hn, rfl⟩
        rw [h] at this
        cases this
      simp [checkAll, h, hn]

end SchemaKit.Sql.Identifier
