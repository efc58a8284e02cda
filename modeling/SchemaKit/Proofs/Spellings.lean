import Mathlib
import SchemaKit.Proofs.Pieces
import SchemaKit.Text.Casing

/-!
# Spellings of keywords

A keyword of ASCII letters is spelled in either case, letter by letter.  Some characters beyond ASCII
count as letters too: the strays of a case map are those whose image is one or more letters of ASCII.
`Spells strays keyword word` says how a keyword may be spelled without mentioning a case map.  A case
map takes a word to a keyword exactly if the word spells it with the strays of that map
(`IsCaseMap.flatMap_eq_iff`), and a word of ASCII spells it without any (`spells_nil_iff`).
-/

namespace SchemaKit.Text

/-- The ways to spell a keyword when case is ignored: each letter in either case, and a stray in the
place of the letters that it stands for. -/
inductive Spells (strays : List (Char × List Char)) : List Char → List Char → Prop
  | nil : Spells strays [] []
  | letter {k c : Char} {keyword word : List Char} (h : c = k.toLower ∨ c = k.toUpper)
      (rest : Spells strays keyword word) : Spells strays (k :: keyword) (c :: word)
  | stray {letters : List Char} {c : Char} {keyword word : List Char} (h : (c, letters) ∈ strays)
      (rest : Spells strays keyword word) : Spells strays (letters ++ keyword) (c :: word)

variable {strays : List (Char × List Char)} {keyword word : List Char}

/-- What a word holds that spells a keyword. -/
theorem Spells.letter_or_stray (h : Spells strays keyword word) {c : Char} (hc : c ∈ word) :
    (∃ k ∈ keyword, c = k.toLower ∨ c = k.toUpper) ∨ c ∈ strays.map Prod.fst := by
  induction h with
  | nil => cases hc
  | letter h rest ih =>
    rcases List.mem_cons.mp hc with rfl | hc
    · exact .inl ⟨_, List.mem_cons_self .., h⟩
    · rcases ih hc with ⟨k, hk, hletter⟩ | hstray
      · exact .inl ⟨k, List.mem_cons_of_mem _ hk, hletter⟩
      · exact .inr hstray
  | stray h rest ih =>
    rcases List.mem_cons.mp hc with rfl | hc
    · exact .inr (List.mem_map_of_mem h)
    · rcases ih hc with ⟨k, hk, hletter⟩ | hstray
      · exact .inl ⟨k, List.mem_append_right _ hk, hletter⟩
      · exact .inr hstray

theorem isAlphanum_of_letter {k c : Char} (hk : k.isAlpha = true)
    (h : c = k.toLower ∨ c = k.toUpper) : c.isAlphanum = true := by
  rcases h with rfl | rfl <;> simp [Char.isAlphanum, hk]

/-- No blank spells a part of a keyword. -/
theorem Spells.isBlank_eq_false (h : Spells strays keyword word)
    (hkeyword : ∀ k ∈ keyword, k.isAlpha = true)
    (hstrays : ∀ c ∈ strays.map Prod.fst, isBlank c = false) {c : Char} (hc : c ∈ word) :
    isBlank c = false := by
  rcases h.letter_or_stray hc with ⟨k, hk, hletter⟩ | hstray
  · exact isBlank_eq_false_of_isAlphanum (isAlphanum_of_letter (hkeyword k hk) hletter)
  · exact hstrays c hstray

theorem Spells.of_nil (h : Spells [] keyword word) : Spells strays keyword word := by
  induction h with
  | nil => exact .nil
  | letter h rest ih => exact .letter h ih
  | stray h rest ih => cases h

/-- **Without strays** a keyword is spelled exactly by the words of ASCII that spell it at all. -/
theorem spells_nil_iff (hkeyword : ∀ k ∈ keyword, k.isAlpha = true)
    (hstrays : ∀ c ∈ strays.map Prod.fst, 128 ≤ c.toNat) :
    Spells [] keyword word ↔ Spells strays keyword word ∧ ∀ c ∈ word, c.toNat < 128 := by
  constructor
  · refine fun h => ⟨h.of_nil, fun c hc => ?_⟩
    rcases h.letter_or_stray hc with ⟨k, hk, hletter⟩ | hstray
    · exact toNat_lt_of_isAlphanum (isAlphanum_of_letter (hkeyword k hk) hletter)
    · cases hstray
  · rintro ⟨h, hascii⟩
    induction h with
    | nil => exact .nil
    | letter h rest ih =>
      rw [List.forall_mem_cons] at hkeyword hascii
      exact .letter h (ih hkeyword.2 hascii.2)
    | stray h rest ih =>
      have hbeyond := hstrays _ (List.mem_map_of_mem h)
      exact absurd (hascii _ (List.mem_cons_self ..)) (Nat.not_lt.mpr hbeyond)

/-! ## Case maps -/

/-- A case map: strays go to the letters that they stand for, and all else goes where it goes within
ASCII. -/
structure IsCaseMap (image : Char → List Char) (ascii : Char → Char)
    (strays : List (Char × List Char)) : Prop where
  stray : ∀ r ∈ strays, image r.1 = r.2
  plain : ∀ c, c ∉ strays.map Prod.fst → image c = [ascii c]
  beyond : ∀ c ∈ strays.map Prod.fst, 128 ≤ c.toNat

/-- **Words that a case map takes to a keyword** are those that spell it. -/
theorem IsCaseMap.flatMap_eq_iff {image : Char → List Char} {ascii : Char → Char}
    (hmap : IsCaseMap image ascii strays)
    (hkeyword : ∀ k ∈ keyword, k.isAlpha = true ∧
      ∀ c, ascii c = k ↔ c = k.toLower ∨ c = k.toUpper) :
    word.flatMap image = keyword ↔ Spells strays keyword word := by
  -- one way the word is read character by character, the other way the spelling is undone
  constructor
  · intro h
    induction word generalizing keyword with
    | nil =>
      obtain rfl : [] = keyword := h
      exact .nil
    | cons c word ih =>
      rw [List.flatMap_cons] at h
      subst h
      have hrest := ih (fun k hk => hkeyword k (List.mem_append_right _ hk)) rfl
      by_cases hc : c ∈ strays.map Prod.fst
      · obtain ⟨⟨c, letters⟩, hmem, rfl⟩ := List.mem_map.mp hc
        rw [hmap.stray _ hmem]
        exact .stray hmem hrest
      · rw [hmap.plain c hc, List.singleton_append] at hkeyword ⊢
        exact .letter (((hkeyword _ (List.mem_cons_self ..)).2 c).mp rfl) hrest
  · intro h
    induction h with
    | nil => rfl
    | @letter k c keyword word h rest ih =>
      rw [List.forall_mem_cons] at hkeyword
      obtain ⟨⟨halpha, hascii⟩, hkeyword⟩ := hkeyword
      -- a letter of ASCII is no stray, so the map does to it what it does within ASCII
      have hplain : c ∉ strays.map Prod.fst := by
        intro hc
        have hlt := toNat_lt_of_isAlphanum (isAlphanum_of_letter halpha h)
        exact absurd hlt (Nat.not_lt.mpr (hmap.beyond c hc))
      rw [List.flatMap_cons, hmap.plain c hplain, (hascii c).mpr h, ih hkeyword,
        List.singleton_append]
    | @stray letters c keyword word h rest ih =>
      rw [List.flatMap_cons, hmap.stray _ h,
        ih fun k hk => hkeyword k (List.mem_append_right _ hk)]

/-! ## Lower case and upper case -/

theorem toUpper_eq_iff {c k : Char} (hk : k.isUpper = true) :
    c.toUpper = k ↔ c = k.toLower ∨ c = k.toUpper := by
  constructor
  · rintro rfl
    by_cases hc : c.isLower = true
    · left
      rw [Char.toLower_toUpper_eq_toLower,
        Char.toLower_eq_of_not_isUpper (Char.not_isUpper_of_isLower hc)]
    · right
      rw [Char.toUpper_toUpper_eq_toUpper, Char.toUpper_eq_of_not_isLower hc]
  · have hself := Char.toUpper_eq_of_not_isLower (Char.not_isLower_of_isUpper hk)
    rintro (rfl | rfl)
    · rw [Char.toUpper_toLower_eq_toUpper, hself]
    · rw [Char.toUpper_toUpper_eq_toUpper, hself]

theorem toLower_eq_iff {c k : Char} (hk : k.isLower = true) :
    c.toLower = k ↔ c = k.toLower ∨ c = k.toUpper := by
  constructor
  · rintro rfl
    by_cases hc : c.isUpper = true
    · right
      rw [Char.toUpper_toLower_eq_toUpper,
        Char.toUpper_eq_of_not_isLower (Char.not_isLower_of_isUpper hc)]
    · left
      rw [Char.toLower_toLower_eq_toLower, Char.toLower_eq_of_not_isUpper hc]
  · have hself := Char.toLower_eq_of_not_isUpper (Char.not_isUpper_of_isLower hk)
    rintro (rfl | rfl)
    · rw [Char.toLower_toLower_eq_toLower, hself]
    · rw [Char.toLower_toUpper_eq_toLower, hself]

/-- The characters beyond ASCII that count as a letter of ASCII when case is ignored: the long s and
the kelvin sign. -/
def foldStrays : List (Char × List Char) :=
  [('\u017F', ['s']), ('\u212A', ['k'])]

/-- The characters beyond ASCII whose upper case is made of letters of ASCII: the sharp s, the
dotless i, the long s and the Latin ligatures. -/
def upperStrays : List (Char × List Char) :=
  [('\u00DF', ['S', 'S']), ('\u0131', ['I']), ('\u017F', ['S']), ('\uFB00', ['F', 'F']),
    ('\uFB01', ['F', 'I']), ('\uFB02', ['F', 'L']), ('\uFB03', ['F', 'F', 'I']),
    ('\uFB04', ['F', 'F', 'L']), ('\uFB05', ['S', 'T']), ('\uFB06', ['S', 'T'])]

theorem isCaseMap_fold : IsCaseMap (fun c => [fold c]) Char.toLower foldStrays where
  stray := by decide
  plain := by
    intro c hc
    simp only [foldStrays, List.map_cons, List.map_nil, List.mem_cons, List.not_mem_nil, or_false,
      not_or] at hc
    rw [fold, if_neg hc.1, if_neg hc.2]
  beyond := by simp [foldStrays]

theorem isCaseMap_upper : IsCaseMap upper Char.toUpper upperStrays where
  stray := by decide
  plain := by
    intro c hc
    unfold upper
    split
    case h_11 => rfl
    all_goals exact absurd (by decide) hc
  beyond := by simp [upperStrays]

/-- **Ignoring case**, a word is a keyword in lower case exactly if it spells it. -/
theorem map_fold_eq_iff (hkeyword : ∀ k ∈ keyword, k.isLower = true) :
    word.map fold = keyword ↔ Spells foldStrays keyword word := by
  rw [List.map_eq_flatMap]
  refine isCaseMap_fold.flatMap_eq_iff fun k hk => ⟨?_, fun c => toLower_eq_iff (hkeyword k hk)⟩
  rw [Char.isAlpha, hkeyword k hk, Bool.or_true]

/-- **In upper case** a word is a keyword exactly if it spells it. -/
theorem upperChars_eq_iff (hkeyword : ∀ k ∈ keyword, k.isUpper = true) :
    upperChars word = keyword ↔ Spells upperStrays keyword word := by
  refine isCaseMap_upper.flatMap_eq_iff fun k hk => ⟨?_, fun c => toUpper_eq_iff (hkeyword k hk)⟩
  rw [Char.isAlpha, hkeyword k hk, Bool.true_or]

/-! ## Phrases -/

section Phrases

variable {keywords ws : List (List Char)}

/-- **In upper case** words are keywords exactly if they spell them one by one. -/
theorem map_upperChars_eq_iff (hkeywords : ∀ keyword ∈ keywords, ∀ k ∈ keyword, k.isUpper = true) :
    ws.map upperChars = keywords ↔ List.Forall₂ (Spells upperStrays) keywords ws := by
  induction keywords generalizing ws with
  | nil => rw [List.map_eq_nil_iff, List.forall₂_nil_left_iff]
  | cons keyword keywords ih =>
    rw [List.forall_mem_cons] at hkeywords
    cases ws with
    | nil => simp
    | cons w ws =>
      rw [List.map_cons, List.cons_eq_cons, List.forall₂_cons, upperChars_eq_iff hkeywords.1,
        ih hkeywords.2]

/-- **Without strays** keywords are spelled exactly by the words of ASCII that spell them at all. -/
theorem forall₂_spells_nil_iff (hkeywords : ∀ keyword ∈ keywords, ∀ k ∈ keyword, k.isAlpha = true)
    (hstrays : ∀ c ∈ strays.map Prod.fst, 128 ≤ c.toNat) :
    List.Forall₂ (Spells []) keywords ws ↔
      List.Forall₂ (Spells strays) keywords ws ∧ ∀ w ∈ ws, ∀ c ∈ w, c.toNat < 128 := by
  induction keywords generalizing ws with
  | nil =>
    rw [List.forall₂_nil_left_iff, List.forall₂_nil_left_iff, and_iff_left_of_imp]
    rintro rfl
    exact List.forall_mem_nil _
  | cons keyword keywords ih =>
    rw [List.forall_mem_cons] at hkeywords
    cases ws with
    | nil => simp
    | cons w ws =>
      rw [List.forall₂_cons, List.forall₂_cons, List.forall_mem_cons,
        spells_nil_iff hkeywords.1 hstrays, ih hkeywords.2, and_and_and_comm]

end Phrases

end SchemaKit.Text
