import Mathlib
import SchemaKit.Proofs.FileNames

/-!
# Slugs

What can be said of the slug of any text of Unicode rests on two facts on lower case: every character
has one or more characters in lower case (`Text.lower_ne_nil`), and a character that a slug can hold
is its own lower case (`FileName.lower_of_isSlugChar`).  By the first a slug is no shorter than its
text, so that it is empty for the empty text alone; by the second the texts that are their own slugs
are exactly those that a slug can be (`FileName.slug_eq_self_iff`).  No slug has a line break, so what
is written for one is read back (`FileName.parse?_fileName_slug_iff`).
-/

namespace SchemaKit.FileName

/-! ## Characters -/

/-- What a slug can hold. -/
theorem isSlugChar_iff {c : Char} :
    isSlugChar c = true ↔ ('a' ≤ c ∧ c ≤ 'z') ∨ ('0' ≤ c ∧ c ≤ '9') ∨ c = '_' := by
  simp [isSlugChar, Char.isLower, Char.isDigit, Char.le_def, or_assoc]

/-- A character that a slug can hold is its own lower case. -/
theorem lower_of_isSlugChar {c : Char} (h : isSlugChar c = true) : Text.lower c = [c] := by
  -- neither of the two exceptions of the lower case can stand in a slug
  have hdotted : c ≠ '\u0130' := by
    rintro rfl
    exact absurd h (by decide)
  have hkelvin : c ≠ '\u212A' := by
    rintro rfl
    exact absurd h (by decide)
  have hupper : ¬c.isUpper = true := by
    intro hupper
    obtain ⟨hA, hZ⟩ : 'A' ≤ c ∧ c ≤ 'Z' := of_decide_eq_true hupper
    rcases isSlugChar_iff.mp h with ⟨hletter, -⟩ | ⟨-, hdigit⟩ | rfl
    · exact absurd (hletter.trans hZ) (by decide)
    · exact absurd (hA.trans hdigit) (by decide)
    · exact absurd hZ (by decide)
  rw [Text.lower, if_neg hdotted, if_neg hkelvin, Char.toLower_eq_of_not_isUpper hupper]

/-! ## Lists of characters -/

theorem isSlugChar_of_mem_slugChars {cs : List Char} {c : Char} (h : c ∈ slugChars cs) :
    isSlugChar c = true := by
  obtain ⟨d, -, rfl⟩ := List.mem_map.mp h
  split
  · assumption
  · decide

theorem length_le_length_slugChars (cs : List Char) : cs.length ≤ (slugChars cs).length := by
  -- every character adds one or more
  have hone : ∀ n ∈ cs.map fun c => (Text.lower c).length, 1 ≤ n := by
    intro n hn
    obtain ⟨c, -, rfl⟩ := List.mem_map.mp hn
    exact List.length_pos_iff.mpr (Text.lower_ne_nil c)
  have hsum := List.length_le_sum_of_one_le _ hone
  rw [List.length_map, ← List.length_flatMap] at hsum
  rwa [slugChars, List.length_map]

theorem slugChars_eq_self {cs : List Char} (h : ∀ c ∈ cs, isSlugChar c = true) :
    slugChars cs = cs := by
  have hlower : Text.lowerChars cs = cs := by
    unfold Text.lowerChars
    rw [List.flatMap_congr fun c hc => lower_of_isSlugChar (h c hc), List.flatMap_singleton']
  rw [slugChars, hlower]
  exact (List.map_congr_left fun c hc => if_pos (h c hc)).trans (List.map_id' cs)

/-! ## Slugs -/

theorem toList_slug (text : String) : (slug text).toList = slugChars text.toList :=
  String.toList_ofList

theorem isSlugChar_of_mem_slug {text : String} {c : Char} (h : c ∈ (slug text).toList) :
    isSlugChar c = true := by
  rw [toList_slug] at h
  exact isSlugChar_of_mem_slugChars h

theorem not_mem_slug (text : String) {c : Char} (h : isSlugChar c = false) :
    c ∉ (slug text).toList := by
  intro hmem
  rw [isSlugChar_of_mem_slug hmem] at h
  cases h

theorem length_le_length_slug (text : String) : text.length ≤ (slug text).length := by
  rw [← String.length_toList, ← String.length_toList, toList_slug]
  exact length_le_length_slugChars text.toList

/-- Any text but the empty one makes a name. -/
theorem slug_eq_empty_iff {text : String} : slug text = "" ↔ text = "" := by
  constructor
  · intro h
    have hlength := length_le_length_slug text
    rw [h] at hlength
    exact String.length_eq_zero_iff.mp (Nat.le_zero.mp hlength)
  · rintro rfl
    decide

/-- **The texts that are their own slugs** are those that hold nothing but what a slug can. -/
theorem slug_eq_self_iff {text : String} :
    slug text = text ↔ ∀ c ∈ text.toList, isSlugChar c = true := by
  constructor
  · intro h c hc
    rw [← h] at hc
    exact isSlugChar_of_mem_slug hc
  · intro h
    rw [slug, slugChars_eq_self h, String.ofList_toList]

theorem slug_slug (text : String) : slug (slug text) = slug text :=
  slug_eq_self_iff.mpr fun _ => isSlugChar_of_mem_slug

theorem slug_append (a b : String) : slug (a ++ b) = slug a ++ slug b := by
  simp only [slug, String.toList_append, slugChars_append, String.ofList_append]

/-! ## File names -/

/-- **What is written for a slug is read back**, as long as there is a name and the version is not
below zero. -/
theorem parse?_fileName_slug_iff {version : Version} {text : String} :
    parse? (fileName version (slug text)) = some (version, slug text) ↔
      0 ≤ version.toInt ∧ text ≠ "" := by
  constructor
  · intro h
    obtain ⟨digits, hsplit, -⟩ := parse?_eq_some_iff.mp h
    exact ⟨nonneg_of_parse? h, slug_eq_empty_iff.not.mp hsplit.name_ne⟩
  · rintro ⟨hversion, hne⟩
    exact parse?_fileName hversion (slug_eq_empty_iff.not.mpr hne)
      (not_mem_slug text (by decide))

/-- **Slugs are stable and safe names.**  Whatever the text is, its slug is made of lower-case letters,
digits and underscores of ASCII, is empty only for the empty text, has no fewer characters than the
text, and is its own slug; the slug of two texts in a row is that of the one and then that of the
other.  So behind any version that is not below zero, written with at least three digits and an
underscore, the slug of any text but the empty one makes a file name that is read back as the version
and the slug. -/
theorem slug_is_stable_name (a b : String) :
    (∀ c ∈ (slug a).toList, ('a' ≤ c ∧ c ≤ 'z') ∨ ('0' ≤ c ∧ c ≤ '9') ∨ c = '_') ∧
    (slug a = "" ↔ a = "") ∧
    a.length ≤ (slug a).length ∧
    slug (slug a) = slug a ∧
    slug (a ++ b) = slug a ++ slug b ∧
    ∀ version, parse? (versionText version ++ "_" ++ slug a ++ ".sql") = some (version, slug a) ↔
      0 ≤ version.toInt ∧ a ≠ "" :=
  ⟨fun _ hc => isSlugChar_iff.mp (isSlugChar_of_mem_slug hc), slug_eq_empty_iff,
    length_le_length_slug a, slug_slug a, slug_append a b, fun _ => parse?_fileName_slug_iff⟩

/-- The capital I with a dot makes two characters, the kelvin sign a letter, and the sharp s stands
for no letter of its own. -/
example : slug "Stra\u00DFe \u0130\u212A" = "stra_e_i_k" := by decide

end SchemaKit.FileName
