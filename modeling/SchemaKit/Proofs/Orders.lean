import SchemaKit.Proofs.Built
import SchemaKit.Proofs.Inert
import SchemaKit.Proofs.Spellings

/-!
# The grammar of orders

An entry of the order of compressed rows is accepted exactly if its words are a column and, behind
it, perhaps a direction and the place of nulls, spelled word by word (`Compression.IsOrder`).  The
entry is judged in upper case and stands in the statement as it came, and the upper case of some
characters beyond ASCII is made of letters of ASCII (`Text.upperStrays`).  So what is accepted are the
entries in letters of ASCII and those with strays among their letters
(`Compression.build_accepts_orders`).
-/

namespace SchemaKit.Compression

open Statement
open Sql.Identifier (isIdentifier)
open Text (Spells upperStrays HasAsciiWords)

variable {strays : List (Char × List Char)} {entry : String} {ws : List (List Char)}

/-! ## Phrases -/

/-- The phrases for the direction of an order, which may be missing. -/
def directionPhrases : List (List String) :=
  [[], ["ASC"], ["DESC"]]

/-- The phrases for the place of nulls in an order, which may be missing. -/
def nullsPhrases : List (List String) :=
  [[], ["NULLS", "FIRST"], ["NULLS", "LAST"]]

/-- The keywords of the phrases, as they follow a column. -/
def keywords (direction nulls : List String) : List (List Char) :=
  (direction ++ nulls).map String.toList

/-- An entry of an order: the name of a column, and behind it words that spell a direction and the
place of nulls. -/
def IsOrder (strays : List (Char × List Char)) (entry : String) : Prop :=
  ∃ column ws, Text.words entry.toList = column :: ws ∧ isIdentifier (String.ofList column) = true ∧
    ∃ direction ∈ directionPhrases, ∃ nulls ∈ nullsPhrases,
      List.Forall₂ (Spells strays) (keywords direction nulls) ws

theorem isUpper_of_mem_keywords {direction nulls : List String}
    (hdirection : direction ∈ directionPhrases) (hnulls : nulls ∈ nullsPhrases) :
    ∀ keyword ∈ keywords direction nulls, ∀ k ∈ keyword, k.isUpper = true := by
  have hall : (directionPhrases.all fun direction => nullsPhrases.all fun nulls =>
      (keywords direction nulls).all fun keyword => keyword.all Char.isUpper) = true := by
    decide
  simp only [List.all_eq_true] at hall
  exact hall direction hdirection nulls hnulls

theorem mem_directions_iff {d : List (List Char)} : d ∈ directions ↔
    ∃ direction ∈ directionPhrases, ∃ nulls ∈ nullsPhrases, d = keywords direction nulls := by
  have hphrases : ∀ d ∈ directions,
      ∃ direction ∈ directionPhrases, ∃ nulls ∈ nullsPhrases, d = keywords direction nulls := by
    decide
  have hmem : ∀ direction ∈ directionPhrases, ∀ nulls ∈ nullsPhrases,
      keywords direction nulls ∈ directions := by
    decide
  refine ⟨hphrases d, ?_⟩
  rintro ⟨direction, hdirection, nulls, hnulls, rfl⟩
  exact hmem direction hdirection nulls hnulls

/-- Words are taken for a direction and a place of nulls exactly if they spell one. -/
theorem isDirection_iff : isDirection ws = true ↔
    ∃ direction ∈ directionPhrases, ∃ nulls ∈ nullsPhrases,
      List.Forall₂ (Spells upperStrays) (keywords direction nulls) ws := by
  rw [isDirection, List.contains_iff_mem, mem_directions_iff]
  refine exists_congr fun direction => and_congr_right fun hdirection =>
    exists_congr fun nulls => and_congr_right fun hnulls => ?_
  exact Text.map_upperChars_eq_iff (isUpper_of_mem_keywords hdirection hnulls)

/-! ## Entries -/

/-- **An entry** is accepted exactly if it is in the grammar. -/
theorem checkOrder_iff_isOrder : checkOrder entry = .ok () ↔ IsOrder upperStrays entry := by
  rw [checkOrder_eq_ok_iff, isDirection_iff, IsOrder]
  cases hwords : Text.words entry.toList with
  | nil =>
    have hempty : isIdentifier "" = false := by decide
    simp [hempty]
  | cons column ws => simp

theorem toNat_lt_of_isIdentifier {name : String} (h : isIdentifier name = true) :
    ∀ c ∈ name.toList, c.toNat < 128 := by
  intro c hc
  have hpart := Sql.Identifier.isPart_of_isIdentifier h c hc
  rw [Sql.Identifier.isPart, Bool.or_eq_true, beq_iff_eq] at hpart
  rcases hpart with hletter | rfl
  · exact Text.toNat_lt_of_isAlphanum hletter
  · decide

/-- Entries in letters of ASCII are those that are written in ASCII. -/
theorem isOrder_nil_iff : IsOrder [] entry ↔ IsOrder upperStrays entry ∧ HasAsciiWords entry := by
  have hspells : ∀ direction ∈ directionPhrases, ∀ nulls ∈ nullsPhrases, ∀ ws,
      (List.Forall₂ (Spells []) (keywords direction nulls) ws ↔
        List.Forall₂ (Spells upperStrays) (keywords direction nulls) ws ∧
          ∀ w ∈ ws, ∀ c ∈ w, c.toNat < 128) := by
    intro direction hdirection nulls hnulls ws
    refine Text.forall₂_spells_nil_iff (fun keyword hkeyword k hk => ?_) Text.isCaseMap_upper.beyond
    rw [Char.isAlpha, isUpper_of_mem_keywords hdirection hnulls keyword hkeyword k hk, Bool.true_or]
  constructor
  · rintro ⟨column, ws, hwords, hcolumn, direction, hdirection, nulls, hnulls, h⟩
    obtain ⟨h, hascii⟩ := (hspells direction hdirection nulls hnulls ws).mp h
    refine ⟨⟨column, ws, hwords, hcolumn, direction, hdirection, nulls, hnulls, h⟩, fun c hc => ?_⟩
    rcases Text.isBlank_or_mem_words hc with hblank | ⟨w, hw, hcw⟩
    · exact .inl hblank
    · right
      rw [hwords] at hw
      -- the column is written in ASCII anyway, being an identifier
      rcases List.mem_cons.mp hw with rfl | hw
      · exact toNat_lt_of_isIdentifier hcolumn c (by rwa [String.toList_ofList])
      · exact hascii w hw c hcw
  · rintro ⟨⟨column, ws, hwords, hcolumn, direction, hdirection, nulls, hnulls, h⟩, hascii⟩
    refine ⟨column, ws, hwords, hcolumn, direction, hdirection, nulls, hnulls,
      (hspells direction hdirection nulls hnulls ws).mpr ⟨h, fun w hw c hc => ?_⟩⟩
    obtain ⟨hmem, hblank⟩ := Text.of_mem_words (hwords ▸ List.mem_cons_of_mem _ hw) hc
    exact hascii.toNat_lt hmem hblank

/-! ## Statements -/

variable {s : Compression} {q : Statement}

theorem build_eq_ok_iff : s.build = .ok q ↔
    (∀ n ∈ s.table :: s.schema :: s.segmentBy, isIdentifier n = true) ∧
      (∀ entry ∈ s.orderBy, IsOrder upperStrays entry) ∧ q = ⟨s.text, []⟩ := by
  have hnames : (∀ n ∈ s.table :: s.schema :: s.segmentBy, isIdentifier n = true) ↔
      names [s.table, s.schema] = .ok () ∧ names s.segmentBy = .ok () := by
    simp only [names_eq_ok_iff, List.forall_mem_cons, List.not_mem_nil, false_implies,
      implies_true, and_true, and_assoc]
  have horders : (∀ entry ∈ s.orderBy, IsOrder upperStrays entry) ↔
      fragment (checkOrders s.orderBy) = .ok () := by
    rw [fragment_eq_ok_iff, checkOrders_eq_ok_iff]
    exact forall₂_congr fun entry _ => checkOrder_iff_isOrder.symm
  rw [hnames, horders]
  constructor
  · intro h
    obtain ⟨htable, hsegments, horders, hq⟩ := of_build h
    exact ⟨⟨htable, hsegments⟩, horders, hq⟩
  · rintro ⟨⟨htable, hsegments⟩, horders, rfl⟩
    rw [build, htable, hsegments, horders]
    rfl

/-- **What is accepted as an order.**  A statement is built exactly if its names are identifiers and
every entry of its order is a column with a direction and a place of nulls, and it holds the entries
as they came; among the entries are those with strays in the place of letters.  Those that are
accepted in ASCII are the entries in letters of ASCII. -/
theorem build_accepts_orders (s : Compression) :
    (∀ q, s.build = .ok q ↔
      (∀ n ∈ s.table :: s.schema :: s.segmentBy, isIdentifier n = true) ∧
        (∀ entry ∈ s.orderBy, IsOrder upperStrays entry) ∧ q = ⟨s.text, []⟩) ∧
    ((∃ q, s.build = .ok q) ∧ (∀ entry ∈ s.orderBy, HasAsciiWords entry) ↔
      (∀ n ∈ s.table :: s.schema :: s.segmentBy, isIdentifier n = true) ∧
        ∀ entry ∈ s.orderBy, IsOrder [] entry) := by
  refine ⟨fun q => build_eq_ok_iff, ?_⟩
  have hascii : (∀ entry ∈ s.orderBy, IsOrder [] entry) ↔
      (∀ entry ∈ s.orderBy, IsOrder upperStrays entry) ∧
        ∀ entry ∈ s.orderBy, HasAsciiWords entry := by
    rw [← forall₂_and]
    exact forall₂_congr fun entry _ => isOrder_nil_iff
  have hbuilt : (∃ q, s.build = .ok q) ↔
      (∀ n ∈ s.table :: s.schema :: s.segmentBy, isIdentifier n = true) ∧
        ∀ entry ∈ s.orderBy, IsOrder upperStrays entry := by
    constructor
    · rintro ⟨q, h⟩
      obtain ⟨hnames, horders, -⟩ := build_eq_ok_iff.mp h
      exact ⟨hnames, horders⟩
    · rintro ⟨hnames, horders⟩
      exact ⟨_, build_eq_ok_iff.mpr ⟨hnames, horders, rfl⟩⟩
  rw [hbuilt, hascii, and_assoc]

/-- A long s is taken for a letter of a keyword, and stands in the statement. -/
theorem long_s_stands_in_order :
    let s : Compression := { table := "events", orderBy := ["ts de\u017Fc"] }
    (∃ q, s.build = .ok q ∧ '\u017F' ∈ q.sql.toList) ∧ ¬∀ entry ∈ s.orderBy, IsOrder [] entry := by
  intro s
  constructor
  · have horder : IsOrder upperStrays "ts de\u017Fc" := checkOrder_iff_isOrder.mp (by decide)
    refine ⟨⟨s.text, []⟩, build_eq_ok_iff.mpr ⟨by decide, ?_, rfl⟩, by decide +kernel⟩
    exact List.forall_mem_singleton.mpr horder
  · intro h
    obtain ⟨-, hascii⟩ := isOrder_nil_iff.mp (h _ (List.mem_singleton_self _))
    exact absurd (hascii.toNat_lt (c := '\u017F') (by decide) (by decide)) (by decide)

end SchemaKit.Compression
