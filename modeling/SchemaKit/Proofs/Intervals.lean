import SchemaKit.Proofs.Pieces
import SchemaKit.Proofs.Spellings
import SchemaKit.Sql.Interval

/-!
# The grammar of intervals

A text is accepted as an interval exactly if a measure of time stands amid its blanks, and the
measure is what is handed back: digits, blanks and the name of a unit, in any case and in either
number (`Interval.IsMeasure`).  Digits are those of ASCII, blanks are any of Unicode, and letters are
more than they seem: two characters beyond ASCII count as letters of it (`Text.foldStrays`).  So what
is accepted are the measures in letters of ASCII and those with strays among their letters
(`Interval.check_accepts_measures`).
-/

namespace SchemaKit.Sql.Interval

open Text (Spells foldStrays IsAmidBlanks HasAsciiWords)

variable {strays : List (Char × List Char)} {cs digits gap word : List Char} {t text : String}

/-! ## Units -/

/-- The names of the units of time. -/
def unitNames : List String :=
  ["second", "minute", "hour", "day", "week", "month", "year"]

/-- A word that names a unit, in the singular or in the plural. -/
def IsUnitName (strays : List (Char × List Char)) (word : List Char) : Prop :=
  ∃ name ∈ unitNames, ∃ ending ∈ [[], ['s']], Spells strays (name.toList ++ ending) word

theorem isLower_of_mem_unitNames {name : String} (hname : name ∈ unitNames) {ending : List Char}
    (hending : ending ∈ [[], ['s']]) : ∀ k ∈ name.toList ++ ending, k.isLower = true := by
  have hall : (unitNames.all fun name => [[], ['s']].all fun ending =>
      (name.toList ++ ending).all Char.isLower) = true := by
    decide
  exact List.all_eq_true.mp (List.all_eq_true.mp (List.all_eq_true.mp hall name hname) ending hending)

theorem isAlpha_of_mem_unitNames {name : String} (hname : name ∈ unitNames) {ending : List Char}
    (hending : ending ∈ [[], ['s']]) : ∀ k ∈ name.toList ++ ending, k.isAlpha = true := by
  intro k hk
  rw [Char.isAlpha, isLower_of_mem_unitNames hname hending k hk, Bool.or_true]

theorem isUnit_iff : isUnit word = true ↔ IsUnitName foldStrays word := by
  have hfold : isUnit word = true ↔
      ∃ name ∈ unitNames, ∃ ending ∈ [[], ['s']], word.map Text.fold = name.toList ++ ending := by
    simp only [isUnit, units, List.any_map, List.any_eq_true, Function.comp_apply, Bool.or_eq_true,
      beq_iff_eq, List.mem_cons, List.not_mem_nil, or_false, exists_eq_or_imp, exists_eq_left,
      List.append_nil, unitNames]
  rw [hfold]
  refine exists_congr fun name => and_congr_right fun hname =>
    exists_congr fun ending => and_congr_right fun hending => ?_
  exact Text.map_fold_eq_iff (isLower_of_mem_unitNames hname hending)

/-- The names of units in letters of ASCII are those that are written in ASCII. -/
theorem isUnitName_nil_iff :
    IsUnitName [] word ↔ IsUnitName foldStrays word ∧ ∀ c ∈ word, c.toNat < 128 := by
  have hspells : ∀ name ∈ unitNames, ∀ ending ∈ [[], ['s']],
      (Spells [] (name.toList ++ ending) word ↔
        Spells foldStrays (name.toList ++ ending) word ∧ ∀ c ∈ word, c.toNat < 128) :=
    fun name hname ending hending =>
      Text.spells_nil_iff (isAlpha_of_mem_unitNames hname hending) Text.isCaseMap_fold.beyond
  constructor
  · rintro ⟨name, hname, ending, hending, h⟩
    obtain ⟨h, hascii⟩ := (hspells name hname ending hending).mp h
    exact ⟨⟨name, hname, ending, hending, h⟩, hascii⟩
  · rintro ⟨⟨name, hname, ending, hending, h⟩, hascii⟩
    exact ⟨name, hname, ending, hending, (hspells name hname ending hending).mpr ⟨h, hascii⟩⟩

/-- The name of a unit has a character, and none of its characters is a blank. -/
theorem IsUnitName.isWord (h : IsUnitName foldStrays word) :
    word ≠ [] ∧ ∀ c ∈ word, Text.isBlank c = false := by
  obtain ⟨name, hname, ending, hending, h⟩ := h
  constructor
  · rintro rfl
    have hnil : name.toList ++ ending = [] := by
      generalize name.toList ++ ending = keyword at h
      cases h
      rfl
    have hne : "" ∉ unitNames := by decide
    exact hne (String.toList_eq_nil_iff.mp (List.append_eq_nil_iff.mp hnil).1 ▸ hname)
  · intro c hc
    have hstrays : ∀ c ∈ foldStrays.map Prod.fst, Text.isBlank c = false := by
      simp [foldStrays, Text.isBlank]
    exact h.isBlank_eq_false (isAlpha_of_mem_unitNames hname hending) hstrays hc

/-! ## Measures -/

/-- The parts of a measure of time: digits, blanks and the name of a unit. -/
structure IsSplit (strays : List (Char × List Char)) (cs digits gap word : List Char) : Prop where
  chars : cs = digits ++ (gap ++ word)
  digits_ne : digits ≠ []
  isDigit : ∀ c ∈ digits, c.isDigit = true
  gap_ne : gap ≠ []
  isBlank : ∀ c ∈ gap, Text.isBlank c = true
  isUnitName : IsUnitName strays word

def IsMeasure (strays : List (Char × List Char)) (text : String) : Prop :=
  ∃ digits gap word, IsSplit strays text.toList digits gap word

theorem isBlank_eq_false_of_isDigit {c : Char} (h : c.isDigit = true) : Text.isBlank c = false :=
  Text.isBlank_eq_false_of_isAlphanum (Text.isAlphanum_of_isDigit h)

/-- The parts of a measure are where they are looked for. -/
theorem IsSplit.isInterval (h : IsSplit foldStrays cs digits gap word) : isInterval cs = true := by
  obtain ⟨rfl, hdigits, hdigit, hgap, hblank, hunit⟩ := h
  obtain ⟨hword, hnonblank⟩ := hunit.isWord
  obtain ⟨b, gap, rfl⟩ := List.exists_cons_of_ne_nil hgap
  obtain ⟨w, word, rfl⟩ := List.exists_cons_of_ne_nil hword
  -- digits end at the first blank, and blanks at the first letter of the unit
  have hb : b.isDigit = false := by
    rw [← Bool.not_eq_true]
    intro hb
    have hnot := isBlank_eq_false_of_isDigit hb
    rw [hblank b (List.mem_cons_self ..)] at hnot
    cases hnot
  have hw := hnonblank w (List.mem_cons_self ..)
  rw [Interval.isInterval, List.cons_append, Text.takeWhile_append_cons hdigit hb,
    Text.dropWhile_append_cons hdigit hb, ← List.cons_append,
    Text.takeWhile_append_cons hblank hw, Text.dropWhile_append_cons hblank hw,
    isUnit_iff.mpr hunit, List.isEmpty_eq_false_iff.mpr hdigits, List.isEmpty_cons]
  rfl

theorem isInterval_iff :
    isInterval cs = true ↔ ∃ digits gap word, IsSplit foldStrays cs digits gap word := by
  constructor
  · intro h
    rw [isInterval, Bool.and_eq_true, Bool.and_eq_true, Bool.not_eq_true', Bool.not_eq_true',
      List.isEmpty_eq_false_iff, List.isEmpty_eq_false_iff, isUnit_iff] at h
    obtain ⟨⟨hdigits, hgap⟩, hunit⟩ := h
    refine ⟨_, _, _, ?_, hdigits, fun c => List.mem_takeWhile_imp, hgap,
      fun c => List.mem_takeWhile_imp, hunit⟩
    rw [List.takeWhile_append_dropWhile, List.takeWhile_append_dropWhile]
  · rintro ⟨digits, gap, word, h⟩
    exact h.isInterval

theorem IsSplit.trimChars_eq (h : IsSplit foldStrays cs digits gap word) :
    Text.trimChars cs = cs := by
  obtain ⟨hword, hnonblank⟩ := h.isUnitName.isWord
  refine Text.trimChars_eq_self ?_ ?_
  · intro c hc
    obtain ⟨d, rest, rfl⟩ := List.exists_cons_of_ne_nil h.digits_ne
    rw [h.chars, List.cons_append, List.head?_cons] at hc
    obtain rfl := Option.some.inj hc
    exact isBlank_eq_false_of_isDigit (h.isDigit _ (List.mem_cons_self ..))
  · intro c hc
    rw [h.chars, ← List.append_assoc, List.getLast?_append_of_ne_nil _ hword] at hc
    exact hnonblank c (List.mem_of_getLast? hc)

/-- Measures in letters of ASCII are those that are written in ASCII. -/
theorem isMeasure_nil_iff : IsMeasure [] t ↔ IsMeasure foldStrays t ∧ HasAsciiWords t := by
  constructor
  · rintro ⟨digits, gap, word, h⟩
    obtain ⟨hunit, hascii⟩ := isUnitName_nil_iff.mp h.isUnitName
    refine ⟨⟨digits, gap, word, { h with isUnitName := hunit }⟩, fun c hc => ?_⟩
    rw [h.chars, List.mem_append, List.mem_append] at hc
    rcases hc with hc | hc | hc
    · right
      exact Text.toNat_lt_of_isAlphanum (Text.isAlphanum_of_isDigit (h.isDigit c hc))
    · exact .inl (h.isBlank c hc)
    · exact .inr (hascii c hc)
  · rintro ⟨⟨digits, gap, word, h⟩, hascii⟩
    have hword : ∀ c ∈ word, c.toNat < 128 := by
      intro c hc
      have hmem : c ∈ t.toList :=
        h.chars ▸ List.mem_append_right _ (List.mem_append_right _ hc)
      exact hascii.toNat_lt hmem (h.isUnitName.isWord.2 c hc)
    exact ⟨digits, gap, word, { h with isUnitName := isUnitName_nil_iff.mpr ⟨h.isUnitName, hword⟩ }⟩

/-! ## What is accepted -/

theorem isInterval_trimChars_iff :
    isInterval (Text.trimChars text.toList) = true ↔
      ∃ t, IsMeasure foldStrays t ∧ IsAmidBlanks t text := by
  constructor
  · intro h
    refine ⟨Text.trim text, ?_, Text.isAmidBlanks_trim text⟩
    rw [IsMeasure, Text.trim, String.toList_ofList]
    exact isInterval_iff.mp h
  · rintro ⟨t, ⟨digits, gap, word, h⟩, hamid⟩
    rw [hamid.trimChars_eq h.trimChars_eq]
    exact h.isInterval

/-- A text holds no other measure amid its blanks. -/
theorem eq_trim (hmeasure : IsMeasure foldStrays t) (hamid : IsAmidBlanks t text) :
    t = Text.trim text := by
  obtain ⟨digits, gap, word, h⟩ := hmeasure
  rw [Text.trim, hamid.trimChars_eq h.trimChars_eq, String.ofList_toList]

theorem check_empty : check "" = .error .emptyInterval := rfl

theorem check_of_ne (hne : text ≠ "") (h : ¬∃ t, IsMeasure foldStrays t ∧ IsAmidBlanks t text) :
    check text = .error (.invalidInterval text) := by
  rw [check, if_neg hne, if_neg (isInterval_trimChars_iff.not.mpr h)]

theorem check_of_isMeasure (hmeasure : IsMeasure foldStrays t) (hamid : IsAmidBlanks t text) :
    check text = .ok t := by
  have hinterval := isInterval_trimChars_iff.mpr ⟨t, hmeasure, hamid⟩
  have hne : text ≠ "" := by
    rintro rfl
    cases hinterval
  rw [check, if_neg hne, if_pos hinterval, eq_trim hmeasure hamid]

theorem check_eq_ok_iff :
    check text = .ok t ↔ IsMeasure foldStrays t ∧ IsAmidBlanks t text := by
  constructor
  · intro h
    obtain ⟨u, hmeasure, hamid⟩ : ∃ t, IsMeasure foldStrays t ∧ IsAmidBlanks t text := by
      by_contra hnone
      by_cases hempty : text = ""
      · rw [hempty, check_empty] at h
        cases h
      · rw [check_of_ne hempty hnone] at h
        cases h
    -- the measure is the text without its blanks, so it is what is handed back
    obtain rfl := Except.ok.inj ((check_of_isMeasure hmeasure hamid).symm.trans h)
    exact ⟨hmeasure, hamid⟩
  · rintro ⟨hmeasure, hamid⟩
    exact check_of_isMeasure hmeasure hamid

/-- **Intervals are measures of time amid blanks.**  A text is accepted exactly if a measure stands
amid its blanks, and this measure is handed back; among the measures are those with a long s or a
kelvin sign in the place of a letter.  Those that are accepted in ASCII are the measures in letters
of ASCII.  The empty text is refused as such, and any other text without a measure by itself. -/
theorem check_accepts_measures (text : String) :
    (∀ t, check text = .ok t ↔ IsMeasure foldStrays t ∧ IsAmidBlanks t text) ∧
    (∀ t, check text = .ok t ∧ HasAsciiWords t ↔ IsMeasure [] t ∧ IsAmidBlanks t text) ∧
    (check text = .error .emptyInterval ↔ text = "") ∧
    (check text = .error (.invalidInterval text) ↔
      text ≠ "" ∧ ¬∃ t, IsMeasure foldStrays t ∧ IsAmidBlanks t text) := by
  refine ⟨fun t => check_eq_ok_iff, fun t => ?_, ⟨fun h => ?_, ?_⟩, ⟨fun h => ?_, ?_⟩⟩
  · rw [check_eq_ok_iff, isMeasure_nil_iff, and_right_comm]
  · by_contra hne
    by_cases hmeasure : ∃ t, IsMeasure foldStrays t ∧ IsAmidBlanks t text
    · obtain ⟨t, ht⟩ := hmeasure
      rw [check_eq_ok_iff.mpr ht] at h
      cases h
    · rw [check_of_ne hne hmeasure] at h
      cases h
  · rintro rfl
    exact check_empty
  · constructor
    · rintro rfl
      cases h
    · rintro ⟨t, ht⟩
      rw [check_eq_ok_iff.mpr ht] at h
      cases h
  · rintro ⟨hne, hnone⟩
    exact check_of_ne hne hnone

/-- A long s is taken for a letter of a unit. -/
theorem long_s_counts_as_letter :
    check "1 \u017Fecond" = .ok "1 \u017Fecond" ∧
      ¬∃ t, IsMeasure [] t ∧ IsAmidBlanks t "1 \u017Fecond" := by
  have hcheck : check "1 \u017Fecond" = .ok "1 \u017Fecond" := by decide
  refine ⟨hcheck, ?_⟩
  rintro ⟨t, hmeasure, hamid⟩
  obtain ⟨hmeasure, hascii⟩ := isMeasure_nil_iff.mp hmeasure
  have ht := check_eq_ok_iff.mpr ⟨hmeasure, hamid⟩
  obtain rfl := Except.ok.inj (hcheck.symm.trans ht)
  exact absurd (hascii.toNat_lt (c := '\u017F') (by decide) (by decide)) (by decide)

end SchemaKit.Sql.Interval
