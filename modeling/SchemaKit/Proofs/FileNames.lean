import SchemaKit.Migration.File
import SchemaKit.Proofs.Pieces

/-!
# The grammar of file names

A file name is a migration's exactly if it is split into digits that stand for a version, an
underscore, a name on one line and the ending (`FileName.parse?_eq_some_iff`).  The name may hold
digits, underscores and endings of its own, but there is only one way to split a text
(`FileName.IsSplit.unique`): its first underscore is the first character that is no digit.  What is
written for a version and a name is split into them again (`FileName.parse?_fileName`).
-/

namespace SchemaKit

namespace FileName

variable {version : Version} {name : String}

/-! ## Parts -/

/-- The version of digits is the number they stand for, unless there is no such version. -/
theorem version?_eq_some_iff {digits : List Char} :
    version? digits = some version ↔
      digits ≠ [] ∧ (Nat.ofDigitChars 10 digits 0 : Int) = version.toInt := by
  unfold version?
  simp only
  constructor
  · intro h
    split at h
    · cases h
    · rename_i hvalid
      rw [Bool.or_eq_true, decide_eq_true_eq, not_or, List.isEmpty_iff, Nat.not_lt] at hvalid
      obtain rfl := Option.some.inj h
      refine ⟨hvalid.1, (Int64.toInt_ofNat_of_lt ?_).symm⟩
      exact Nat.lt_succ_of_le hvalid.2
  · rintro ⟨hne, hvalue⟩
    have hempty : digits.isEmpty = false := List.isEmpty_eq_false_iff.mpr hne
    have hle : ¬maxVersion < Nat.ofDigitChars 10 digits 0 := by
      have hlt := Int64.toInt_lt version
      unfold maxVersion
      omega
    have hback : Int64.ofNat (Nat.ofDigitChars 10 digits 0) = version := by
      rw [← Int64.ofInt_eq_ofNat, hvalue, Int64.ofInt_toInt]
    simp only [hempty, hle, decide_false, Bool.or_self, Bool.false_eq_true, if_false, hback]

theorem dropEnding?_eq_some_iff {tail cs front : List Char} :
    dropEnding? tail cs = some front ↔ cs = front ++ tail := by
  unfold dropEnding?
  constructor
  · intro h
    split at h
    · rename_i hsuffix
      obtain ⟨before, rfl⟩ := List.isSuffixOf_iff_suffix.mp hsuffix
      obtain rfl := Option.some.inj h
      rw [List.length_append, Nat.add_sub_cancel, List.take_left]
    · cases h
  · rintro rfl
    rw [if_pos (List.isSuffixOf_iff_suffix.mpr (List.suffix_append _ _)), List.length_append,
      Nat.add_sub_cancel, List.take_left]

theorem name?_eq_some_iff {cs : List Char} :
    name? cs = some name ↔ cs = name.toList ++ ending ∧ name ≠ "" ∧ '\n' ∉ name.toList := by
  unfold name?
  constructor
  · intro h
    split at h
    · rename_i front hfront
      split at h
      · cases h
      · rename_i hvalid
        rw [Bool.or_eq_true, not_or, List.isEmpty_iff, List.contains_iff_mem] at hvalid
        obtain rfl := Option.some.inj h
        rw [Ne, ← String.toList_eq_nil_iff, String.toList_ofList]
        exact ⟨dropEnding?_eq_some_iff.mp hfront, hvalid⟩
    · cases h
  · rintro ⟨rfl, hne, hline⟩
    have hempty : name.toList.isEmpty = false :=
      List.isEmpty_eq_false_iff.mpr (String.toList_eq_nil_iff.not.mpr hne)
    have hcontains : name.toList.contains '\n' = false := by
      rw [← Bool.not_eq_true, List.contains_iff_mem]
      exact hline
    rw [dropEnding?_eq_some_iff.mpr rfl]
    simp only [hempty, hcontains, Bool.or_self, Bool.false_eq_true, if_false, String.ofList_toList]

/-! ## Splits -/

/-- A text that is split into one or more decimal digits, an underscore, a name of one or more
characters on one line, and the ending. -/
structure IsSplit (file digits name : String) : Prop where
  text : file = digits ++ "_" ++ name ++ ".sql"
  digits_ne : digits ≠ ""
  isDigit : ∀ c ∈ digits.toList, c.isDigit = true
  name_ne : name ≠ ""
  line : '\n' ∉ name.toList

/-- The number that digits stand for. -/
def decimal (digits : String) : Nat :=
  Nat.ofDigitChars 10 digits.toList 0

namespace IsSplit

variable {file digits digits' name' : String}

theorem toList (h : IsSplit file digits name) :
    file.toList = digits.toList ++ '_' :: (name.toList ++ ending) := by
  rw [h.text]
  simp only [String.toList_append, List.append_assoc]
  rfl

/-- **A text is split in one way only.** -/
theorem unique (h : IsSplit file digits name) (h' : IsSplit file digits' name') :
    digits = digits' ∧ name = name' := by
  have hcut : ∀ {digits name}, IsSplit file digits name → '_' ∉ digits.toList := fun h hmem =>
    absurd (h.isDigit _ hmem) (by decide)
  obtain ⟨hfront, hrest⟩ := Text.cut_cons (hcut h) (hcut h') (h.toList.symm.trans h'.toList)
  exact ⟨String.toList_injective hfront,
    String.toList_injective (List.append_cancel_right hrest)⟩

end IsSplit

/-- **What is read** of a file name: its name and the version that its digits stand for. -/
theorem parse?_eq_some_iff {file : String} : parse? file = some (version, name) ↔
    ∃ digits, IsSplit file digits name ∧ (decimal digits : Int) = version.toInt := by
  constructor
  · intro h
    unfold parse? at h
    simp only at h
    split at h
    · rename_i rest hrest
      split at h
      · rename_i hversion hname
        obtain ⟨rfl, rfl⟩ := Prod.mk.inj (Option.some.inj h)
        obtain ⟨hne, hvalue⟩ := version?_eq_some_iff.mp hversion
        obtain ⟨rfl, hname_ne, hline⟩ := name?_eq_some_iff.mp hname
        have hchars := (List.takeWhile_append_dropWhile (p := Char.isDigit) (l := file.toList)).symm
        refine ⟨String.ofList (file.toList.takeWhile Char.isDigit),
          ⟨?_, ?_, ?_, hname_ne, hline⟩, ?_⟩
        · apply String.toList_injective
          simp only [String.toList_append, String.toList_ofList, List.append_assoc]
          rwa [hrest] at hchars
        · rwa [Ne, ← String.toList_eq_nil_iff, String.toList_ofList]
        · rw [String.toList_ofList]
          exact fun c hc => List.mem_takeWhile_imp hc
        · rwa [decimal, String.toList_ofList]
      · cases h
    · cases h
  · rintro ⟨digits, hsplit, hvalue⟩
    -- the underscore is the first character that is no digit
    have hdrop : file.toList.dropWhile Char.isDigit = '_' :: (name.toList ++ ending) := by
      rw [hsplit.toList, List.dropWhile_append_of_pos hsplit.isDigit,
        List.dropWhile_cons_of_neg (by decide)]
    have htake : file.toList.takeWhile Char.isDigit = digits.toList := by
      rw [hsplit.toList, List.takeWhile_append_of_pos hsplit.isDigit,
        List.takeWhile_cons_of_neg (by decide), List.append_nil]
    have hversion : version? digits.toList = some version :=
      version?_eq_some_iff.mpr ⟨String.toList_eq_nil_iff.not.mpr hsplit.digits_ne, hvalue⟩
    have hname : name? (name.toList ++ ending) = some name :=
      name?_eq_some_iff.mpr ⟨rfl, hsplit.name_ne, hsplit.line⟩
    unfold parse?
    simp only [hdrop, htake, hversion, hname]

/-- Nothing is read of a text that cannot be split, or whose digits stand for no version. -/
theorem parse?_eq_none_iff {file : String} : parse? file = none ↔
    ∀ digits name, IsSplit file digits name → maxVersion < decimal digits := by
  constructor
  · intro h digits name hsplit
    by_contra hle
    have hvalue : (decimal digits : Int) = (Int64.ofNat (decimal digits)).toInt :=
      (Int64.toInt_ofNat_of_lt (Nat.lt_succ_of_le (Nat.not_lt.mp hle))).symm
    rw [parse?_eq_some_iff.mpr ⟨digits, hsplit, hvalue⟩] at h
    cases h
  · intro h
    cases hparse : parse? file with
    | none => rfl
    | some r =>
      obtain ⟨digits, hsplit, hvalue⟩ := parse?_eq_some_iff.mp hparse
      have hlt := h _ _ hsplit
      have hmax := Int64.toInt_lt r.1
      unfold maxVersion at hlt
      omega

theorem nonneg_of_parse? {file : String} (h : parse? file = some (version, name)) :
    0 ≤ version.toInt := by
  obtain ⟨digits, -, hvalue⟩ := parse?_eq_some_iff.mp h
  exact hvalue ▸ Int.natCast_nonneg _

/-! ## What is written -/

theorem toList_versionText (h : 0 ≤ version.toInt) :
    (versionText version).toList = Text.zeroPad 3 version.toInt.natAbs := by
  unfold versionText
  simp only [if_neg (Int.not_lt.mpr h), String.toList_ofList]

/-- What is written for a version and a name is split into them. -/
theorem isSplit_label (h : 0 ≤ version.toInt) (hne : name ≠ "") (hline : '\n' ∉ name.toList) :
    IsSplit (label version name ++ ".sql") (versionText version) name where
  text := rfl
  digits_ne := by
    rw [Ne, ← String.toList_eq_nil_iff, toList_versionText h]
    exact Text.zeroPad_ne_nil 3 _
  isDigit := by
    rw [toList_versionText h]
    exact fun c hc => Text.isDigit_of_mem_zeroPad hc
  name_ne := hne
  line := hline

theorem decimal_versionText (h : 0 ≤ version.toInt) :
    (decimal (versionText version) : Int) = version.toInt := by
  rw [decimal, toList_versionText h, Text.ofDigitChars_zeroPad, Int.natAbs_of_nonneg h]

/-- **A file name is read back** as its version and its name. -/
theorem parse?_fileName (h : 0 ≤ version.toInt) (hne : name ≠ "") (hline : '\n' ∉ name.toList) :
    parse? (fileName version name) = some (version, name) :=
  parse?_eq_some_iff.mpr ⟨_, isSplit_label h hne hline, decimal_versionText h⟩

end FileName

namespace Migration

open FileName

/-- **The grammar decides** which file names are those of migrations.  A file name is read as a
version and a name exactly if it is split into digits that stand for the version, and the name; it
is split in one way only; and any other text is refused and named in the refusal.  So a migration is
read back from what it is called in messages, with the ending behind it. -/
theorem grammar_decides_file_names (path file : String) :
    (∀ version name, ofFileName path file = .ok ⟨version, name, path, file⟩ ↔
      ∃ digits, IsSplit file digits name ∧ (decimal digits : Int) = version.toInt) ∧
    (∀ digits name digits' name', IsSplit file digits name → IsSplit file digits' name' →
      digits = digits' ∧ name = name') ∧
    (ofFileName path file = .error (.invalidFileName file) ↔
      ∀ digits name, IsSplit file digits name → maxVersion < decimal digits) ∧
    ∀ x : Migration, 0 ≤ x.version.toInt → x.name ≠ "" → '\n' ∉ x.name.toList →
      ofFileName path (x.label ++ ".sql") = .ok ⟨x.version, x.name, path, x.label ++ ".sql"⟩ := by
  refine ⟨fun version name => ?ok, fun digits name digits' name' h h' => h.unique h', ?error,
    fun x hversion hne hline => ?label⟩
  case ok =>
    rw [← parse?_eq_some_iff]
    unfold ofFileName
    cases parse? file <;> simp [Prod.ext_iff]
  case error =>
    rw [← parse?_eq_none_iff]
    unfold ofFileName
    cases parse? file <;> simp
  case label =>
    have hread : parse? (x.label ++ ".sql") = some (x.version, x.name) :=
      parse?_fileName hversion hne hline
    unfold ofFileName
    rw [hread]

/-- A name with a number and an ending of its own, digits that stand for the number just above the
highest version, and a migration that is read back. -/
theorem grammar_decides_file_names_of_inner_ending :
    let file := "0012_3_a.sql.sql"
    let high := "9223372036854775808_x.sql"
    let x : Migration := ⟨7, "b_1", "d/7_b_1.sql", "7_b_1.sql"⟩
    IsSplit file "0012" "3_a.sql" ∧ ofFileName "d" file = .ok ⟨12, "3_a.sql", "d", file⟩ ∧
      (∀ digits name, IsSplit file digits name → "0012" = digits ∧ "3_a.sql" = name) ∧
      ofFileName "d" high = .error (.invalidFileName high) ∧
      ofFileName "d" (x.label ++ ".sql") = .ok ⟨7, "b_1", "d", x.label ++ ".sql"⟩ := by
  intro file high x
  have hsplit : IsSplit file "0012" "3_a.sql" :=
    ⟨by decide, by decide, by simp, by decide, by decide⟩
  have hhigh : IsSplit high "9223372036854775808" "x" :=
    ⟨by decide, by decide, by simp, by decide, by decide⟩
  obtain ⟨hread, hunique, -, hlabel⟩ := grammar_decides_file_names "d" file
  obtain ⟨-, hunique', hrefused, -⟩ := grammar_decides_file_names "d" high
  refine ⟨hsplit, (hread 12 _).mpr ⟨_, hsplit, by decide⟩,
    fun digits name => hunique _ _ digits name hsplit, hrefused.mpr fun digits name h => ?_,
    hlabel x (by decide) (by decide) (by decide)⟩
  obtain ⟨rfl, -⟩ := hunique' _ _ digits name hhigh h
  decide

end Migration

end SchemaKit
