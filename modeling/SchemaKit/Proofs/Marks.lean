import Mathlib.Data.List.TakeWhile
import SchemaKit.Statement

/-!
# Marks of SQL text

The marks of a text are its parentheses, its commas and its numbered placeholders `$1`, `$2`, …, from
left to right; all else is passed over.  `marks_append` reads a text in parts, and what is written
with commas between its parts is read off part by part (`marks_commaList`).
-/

namespace SchemaKit.Sql

/-- A parenthesis, a comma or a numbered placeholder. -/
inductive Mark where
  | opening
  | closing
  | comma
  | placeholder (n : Nat)
deriving DecidableEq

namespace Mark

/-- The mark that begins with a character, given what follows it.  A placeholder takes in all digits
behind the dollar sign, and there must be one. -/
def first? (c : Char) (rest : List Char) : Option Mark :=
  if c = '(' then some opening
  else if c = ')' then some closing
  else if c = ',' then some comma
  else if c = '$' then
    match rest.takeWhile Char.isDigit with
    | [] => none
    | ds => some (placeholder (Nat.ofDigitChars 10 ds 0))
  else none

def scan : List Char → List Mark
  | [] => []
  | c :: rest => (first? c rest).toList ++ scan rest

def number? : Mark → Option Nat
  | placeholder n => some n
  | _ => none

/-- The marks of items in parentheses, with commas between them. -/
def parens (items : List (List Mark)) : List Mark :=
  opening :: [comma].intercalate items ++ [closing]

/-- A character that no mark begins with. -/
def isPlain (c : Char) : Bool :=
  c != '(' && c != ')' && c != ',' && c != '$'

/-! ## Reading a text in parts -/

/-- Letters, digits and underscores are plain. -/
theorem isPlain_of_isPart {c : Char} (h : Identifier.isPart c = true) : isPlain c = true := by
  simp only [isPlain, Bool.and_eq_true, bne_iff_ne]
  refine ⟨⟨⟨?_, ?_⟩, ?_⟩, ?_⟩ <;> rintro rfl <;> exact absurd h (by decide)

theorem isPlain_of_isDigit {c : Char} (h : c.isDigit = true) : isPlain c = true :=
  isPlain_of_isPart (by simp [Identifier.isPart, Char.isAlphanum, h])

theorem first?_of_isPlain {c : Char} (h : isPlain c = true) (rest : List Char) :
    first? c rest = none := by
  simp only [isPlain, Bool.and_eq_true, bne_iff_ne] at h
  obtain ⟨⟨⟨hopening, hclosing⟩, hcomma⟩, hdollar⟩ := h
  rw [first?, if_neg hopening, if_neg hclosing, if_neg hcomma, if_neg hdollar]

/-- What stands behind digits does not matter to them, unless it begins with one. -/
theorem takeWhile_isDigit_append {a b : List Char} (h : ∀ c ∈ b.head?, c.isDigit = false) :
    (a ++ b).takeWhile Char.isDigit = a.takeWhile Char.isDigit := by
  have hb : b.takeWhile Char.isDigit = [] := by
    cases b with
    | nil => rfl
    | cons c rest => exact List.takeWhile_cons_of_neg (by simp [h c rfl])
  -- the digits may be all of the front part, and then they go on into what follows
  rw [List.takeWhile_append, hb, List.append_nil]
  split
  · rename_i hlength
    exact ((List.takeWhile_prefix _).eq_of_length hlength).symm
  · rfl

theorem scan_append {a b : List Char} (h : ∀ c ∈ b.head?, c.isDigit = false) :
    scan (a ++ b) = scan a ++ scan b := by
  induction a with
  | nil => rfl
  | cons c rest ih =>
    -- only a placeholder looks beyond its own character, and it looks for digits
    have hfirst : first? c (rest ++ b) = first? c rest := by
      simp only [first?, takeWhile_isDigit_append h]
    rw [List.cons_append, scan, hfirst, ih, scan, List.append_assoc]

/-- Plain characters are passed over, whatever follows. -/
theorem scan_plain_append {a : List Char} (h : ∀ c ∈ a, isPlain c = true) (b : List Char) :
    scan (a ++ b) = scan b := by
  induction a with
  | nil => rfl
  | cons c rest ih =>
    rw [List.forall_mem_cons] at h
    rw [List.cons_append, scan, first?_of_isPlain h.1, ih h.2]
    rfl

theorem scan_plain {a : List Char} (h : ∀ c ∈ a, isPlain c = true) : scan a = [] := by
  have happend := scan_plain_append h []
  rwa [List.append_nil] at happend

/-- Commas with blanks behind them are the only marks between parts. -/
theorem scan_intercalate (parts : List (List Char)) :
    scan ([',', ' '].intercalate parts) = [comma].intercalate (parts.map scan) := by
  induction parts with
  | nil => rfl
  | cons a rest ih =>
    cases rest with
    | nil => simp
    | cons b rest =>
      have hcomma : ∀ cs, scan ([',', ' '] ++ cs) = [comma] ++ scan cs := fun cs => rfl
      rw [List.map_cons, List.map_cons, List.intercalate_cons_cons, List.intercalate_cons_cons,
        List.append_assoc, scan_append (by simp), hcomma, ih, List.map_cons, List.append_assoc]

theorem scan_digits {ds : List Char} (hne : ds ≠ []) (h : ∀ c ∈ ds, c.isDigit = true) :
    scan ('$' :: ds) = [placeholder (Nat.ofDigitChars 10 ds 0)] := by
  have hplain : scan ds = [] := scan_plain fun c hc => isPlain_of_isDigit (h c hc)
  have htake : ds.takeWhile Char.isDigit = ds := List.takeWhile_eq_self_iff.mpr h
  cases ds with
  | nil => exact absurd rfl hne
  | cons d ds =>
    rw [scan, hplain]
    simp only [first?, htake]
    rfl

/-- Numbers are between the marks that they have no part in. -/
theorem filterMap_number?_intercalate (parts : List (List Mark)) :
    ([comma].intercalate parts).filterMap number? = parts.flatMap (List.filterMap number?) := by
  induction parts with
  | nil => rfl
  | cons a rest ih =>
    cases rest with
    | nil => simp
    | cons b rest =>
      rw [List.intercalate_cons_cons, List.filterMap_append, List.filterMap_append, ih,
        List.flatMap_cons (x := a)]
      simp [number?]

theorem filterMap_number?_parens (items : List (List Mark)) :
    (parens items).filterMap number? = items.flatMap (List.filterMap number?) := by
  rw [parens, List.filterMap_append, List.filterMap_cons_none (by rfl),
    filterMap_number?_intercalate]
  simp [number?]

end Mark

/-! ## The marks of statements -/

open Mark

def marks (text : String) : List Mark :=
  scan text.toList

theorem marks_append {a b : String} (h : ∀ c ∈ b.toList.head?, c.isDigit = false) :
    marks (a ++ b) = marks a ++ marks b := by
  rw [marks, String.toList_append, scan_append h]
  rfl

/-- Whether all characters of a text are plain. -/
def isPlainText (text : String) : Bool :=
  text.toList.all isPlain

theorem isPlainText_append (a b : String) :
    isPlainText (a ++ b) = (isPlainText a && isPlainText b) := by
  rw [isPlainText, String.toList_append, List.all_append]
  rfl

theorem marks_of_isPlainText {text : String} (h : isPlainText text = true) : marks text = [] :=
  scan_plain (List.all_eq_true.mp h)

theorem marks_plain_append {a : String} (h : isPlainText a = true) (b : String) :
    marks (a ++ b) = marks b := by
  rw [marks, String.toList_append, scan_plain_append (List.all_eq_true.mp h)]
  rfl

theorem marks_placeholder (n : Nat) : marks (Statement.placeholder n) = [placeholder n] := by
  have hdigits : ∀ c ∈ Nat.toDigits 10 n, c.isDigit = true := fun c hc =>
    Nat.isDigit_of_mem_toDigits (by decide) (by decide) hc
  have hchars : (Statement.placeholder n).toList = '$' :: Nat.toDigits 10 n := by
    rw [Statement.placeholder, String.toList_append, Nat.toString_eq_repr, Nat.toList_repr]
    rfl
  rw [marks, hchars, scan_digits Nat.toDigits_ne_nil hdigits, Nat.ofDigitChars_ten_toDigits]

/-- A list is read item by item. -/
theorem marks_commaList (items : List String) :
    marks (Statement.commaList items) = [comma].intercalate (items.map marks) := by
  rw [marks, Statement.commaList, String.toList_intercalate]
  have hsep : ", ".toList = [',', ' '] := by decide
  rw [hsep, scan_intercalate, List.map_map]
  rfl

/-- A list in parentheses is read item by item. -/
theorem marks_parens (items : List String) :
    marks ("(" ++ Statement.commaList items ++ ")") = parens (items.map marks) := by
  have hopening : ∀ text : String, marks ("(" ++ text) = opening :: marks text := fun text => by
    rw [marks, String.toList_append]
    rfl
  have hclosing : marks ")" = [closing] := by decide
  rw [marks_append (by simp), hopening, hclosing, marks_commaList, parens]

theorem isPlainText_of_isIdentifier {name : String} (h : Identifier.isIdentifier name = true) :
    isPlainText name = true :=
  List.all_eq_true.mpr fun c hc => isPlain_of_isPart (Identifier.isPart_of_isIdentifier h c hc)

end SchemaKit.Sql
