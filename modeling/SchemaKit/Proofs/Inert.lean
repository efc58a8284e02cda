import SchemaKit.Proofs.Marks
import SchemaKit.Proofs.Pieces
import SchemaKit.Proofs.Progress
import SchemaKit.Sql.IndexMethod
import SchemaKit.Sql.Interval
import SchemaKit.Statement.Compression

/-!
# Inert texts

The characters that could end a statement, a name, a literal or a parenthesis, begin a comment or
stand for a value are special; a text without them is inert.  Whatever passes a check is inert,
though not all that passes is ASCII: blanks may be any of Unicode, and some characters beyond ASCII
count as letters when case is ignored (`isInert_of_isInterval`) or in upper case
(`isInert_of_checkOrder`).
-/

namespace SchemaKit.Sql

/-- Semicolon, double quote, backslash, hyphen, slash, single quote, parentheses and dollar sign. -/
def specialChars : List Char :=
  [';', '"', '\\', '-', '/', '\'', '(', ')', '$']

/-- A character with a meaning of its own in SQL. -/
def isSpecial (c : Char) : Bool :=
  specialChars.contains c

def specials (text : String) : List Char :=
  text.toList.filter isSpecial

/-- A text without special characters. -/
def IsInert (text : String) : Prop :=
  specials text = []

/-! ## Texts in parts -/

@[simp] theorem specials_append (a b : String) : specials (a ++ b) = specials a ++ specials b := by
  rw [specials, String.toList_append, List.filter_append]
  rfl

theorem isInert_iff {text : String} : IsInert text ↔ ∀ c ∈ text.toList, isSpecial c = false := by
  unfold IsInert specials
  simp only [List.filter_eq_nil_iff, Bool.not_eq_true]

theorem IsInert.append {a b : String} (ha : IsInert a) (hb : IsInert b) : IsInert (a ++ b) := by
  unfold IsInert at ha hb ⊢
  rw [specials_append, ha, hb, List.append_nil]

/-- Inert parts with an inert text between them are inert together. -/
theorem IsInert.intercalate {sep : String} (hsep : IsInert sep) {parts : List String}
    (hparts : ∀ part ∈ parts, IsInert part) : IsInert (sep.intercalate parts) := by
  rw [isInert_iff] at hsep ⊢
  rw [String.toList_intercalate]
  intro c hc
  rcases Text.of_mem_intercalate hc with hc | ⟨part, hpart, hc⟩
  · exact hsep c hc
  · obtain ⟨part, hmem, rfl⟩ := List.mem_map.mp hpart
    exact isInert_iff.mp (hparts part hmem) c hc

/-! ## What passes a check -/

/-- A character that passes a test that no special character passes. -/
theorem isSpecial_eq_false {p : Char → Bool} (hnone : specialChars.any p = false) {c : Char}
    (hc : p c = true) : isSpecial c = false := by
  by_contra hspecial
  rw [Bool.not_eq_false] at hspecial
  exact List.any_eq_false.mp hnone c (List.contains_iff_mem.mp hspecial) hc

/-- **Names** are inert. -/
theorem isInert_of_isIdentifier {name : String} (h : Identifier.isIdentifier name = true) :
    IsInert name :=
  isInert_iff.mpr fun c hc =>
    isSpecial_eq_false (by decide) (Identifier.isPart_of_isIdentifier h c hc)

theorem isInert_method (m : IndexMethod) : IsInert m.name := by
  cases m <;> rfl

/-- A unit of time is made of letters, and no special character counts as a letter when case is
ignored. -/
theorem isSpecial_of_mem_unit {word : List Char} (h : Interval.isUnit word = true) {c : Char}
    (hc : c ∈ word) : isSpecial c = false := by
  obtain ⟨u, hu, hword⟩ := List.any_eq_true.mp h
  rw [Bool.or_eq_true, beq_iff_eq, beq_iff_eq] at hword
  -- with case ignored, the character is a letter of a unit or the s behind it
  have hfold : Text.fold c ∈ u ++ ['s'] := by
    have hmem : Text.fold c ∈ word.map Text.fold := List.mem_map_of_mem hc
    rcases hword with heq | heq
    · exact List.mem_append_left _ (heq ▸ hmem)
    · exact heq ▸ hmem
  have hletters : (Interval.units.all fun u => (u ++ ['s']).all fun d => !isSpecial d) = true := by
    decide
  have hletter := List.all_eq_true.mp (List.all_eq_true.mp hletters u hu) _ hfold
  exact isSpecial_eq_false (p := fun c => !isSpecial (Text.fold c)) (by decide) hletter

/-- **Intervals** are inert. -/
theorem isSpecial_of_isInterval {cs : List Char} (h : Interval.isInterval cs = true) {c : Char}
    (hc : c ∈ cs) : isSpecial c = false := by
  have hunit : Interval.isUnit ((cs.dropWhile Char.isDigit).dropWhile Text.isBlank) = true := by
    unfold Interval.isInterval at h
    rw [Bool.and_eq_true] at h
    exact h.2
  -- the character is one of the digits, of the blanks or of the unit
  rw [← List.takeWhile_append_dropWhile (p := Char.isDigit) (l := cs), List.mem_append] at hc
  rcases hc with hdigit | hc
  · exact isSpecial_eq_false (by decide) (List.mem_takeWhile_imp hdigit)
  rw [← List.takeWhile_append_dropWhile (p := Text.isBlank) (l := cs.dropWhile Char.isDigit),
    List.mem_append] at hc
  rcases hc with hblank | hc
  · exact isSpecial_eq_false (by decide) (List.mem_takeWhile_imp hblank)
  · exact isSpecial_of_mem_unit hunit hc

theorem isInert_of_interval {text interval : String} (h : Interval.check text = .ok interval) :
    interval = Text.trim text ∧ IsInert interval := by
  unfold Interval.check at h
  split at h
  · cases h
  · split at h
    · rename_i hinterval
      obtain rfl := Except.ok.inj h
      refine ⟨rfl, isInert_iff.mpr fun c hc => isSpecial_of_isInterval hinterval ?_⟩
      rwa [Text.trim, String.toList_ofList] at hc
    · cases h

end SchemaKit.Sql

/-! ## Entries of an order -/

namespace SchemaKit.Compression

open Sql

theorem checkOrder_eq_ok_iff {entry : String} : checkOrder entry = .ok () ↔
    Identifier.isIdentifier (String.ofList ((Text.words entry.toList).headD [])) = true ∧
      isDirection (Text.words entry.toList).tail = true := by
  constructor
  · intro h
    obtain ⟨column, hcolumn, h⟩ := exists_of_bind h
    refine ⟨(Identifier.check_eq_ok_iff.mp hcolumn).1, ?_⟩
    by_contra hdirection
    rw [if_neg hdirection] at h
    cases h
  · rintro ⟨hcolumn, hdirection⟩
    simp only [checkOrder, Identifier.check_eq_ok_iff.mpr ⟨hcolumn, rfl⟩, if_pos hdirection]
    rfl

theorem checkOrders_eq_ok_iff {entries : List String} :
    checkOrders entries = .ok () ↔ ∀ entry ∈ entries, checkOrder entry = .ok () := by
  induction entries with
  | nil => simp [checkOrders]
  | cons entry entries ih =>
    cases h : checkOrder entry with
    | ok u => simp [checkOrders, h, ih]
    | error why => simp [checkOrders, h]

/-- A word that tells a direction is made of letters, and no special character is a letter in upper
case. -/
theorem isSpecial_of_isDirection {ws : List (List Char)} (h : isDirection ws = true)
    {w : List Char} (hw : w ∈ ws) {c : Char} (hc : c ∈ w) : isSpecial c = false := by
  have hdirection : ws.map Text.upperChars ∈ directions := List.contains_iff_mem.mp h
  have hletters : (directions.all fun d => d.all fun w => w.all fun c => !isSpecial c) = true := by
    decide
  have hword : ((Text.upperChars w).all fun d => !isSpecial d) = true :=
    List.all_eq_true.mp (List.all_eq_true.mp hletters _ hdirection) _ (List.mem_map_of_mem hw)
  -- the upper case of a special character is special again
  refine isSpecial_eq_false (p := fun c => (Text.upper c).all fun d => !isSpecial d) (by decide) ?_
  exact List.all_eq_true.mpr fun d hd =>
    List.all_eq_true.mp hword d (List.mem_flatMap.mpr ⟨c, hc, hd⟩)

/-- **Entries of an order** are inert. -/
theorem isInert_of_checkOrder {entry : String} (h : checkOrder entry = .ok ()) : IsInert entry := by
  obtain ⟨hcolumn, hdirection⟩ := checkOrder_eq_ok_iff.mp h
  rw [isInert_iff]
  intro c hc
  rcases Text.isBlank_or_mem_words hc with hblank | ⟨w, hw, hcw⟩
  · exact isSpecial_eq_false (by decide) hblank
  · cases hwords : Text.words entry.toList with
    | nil =>
      rw [hwords] at hw
      cases hw
    | cons first rest =>
      rw [hwords] at hcolumn hdirection hw
      rcases List.mem_cons.mp hw with rfl | hw
      · refine isInert_iff.mp (isInert_of_isIdentifier hcolumn) c ?_
        rwa [List.headD_cons, String.toList_ofList]
      · exact isSpecial_of_isDirection hdirection hw hcw

theorem isInert_of_checkOrders {entries : List String} (h : checkOrders entries = .ok ()) :
    ∀ entry ∈ entries, IsInert entry :=
  fun entry hentry => isInert_of_checkOrder (checkOrders_eq_ok_iff.mp h entry hentry)

end SchemaKit.Compression
