import Mathlib.Data.List.TakeWhile
import SchemaKit.Text.Blank

/-!
# Texts in pieces

What stands between the delimiters of a text: no piece holds a delimiter (`of_mem_splitOnP`),
everything else stands in some piece (`or_mem_splitOnP`), and a text is cut at its first delimiter
in one way only (`cut_unique`).  So pieces without a delimiter are told from what is joined of them
(`intercalate_inj`), and any others tell only what they are split into (`splitOn_intercalate`).
Letters and digits belong to the words of a text (`isBlank_eq_false_of_isAlphanum`).
-/

namespace SchemaKit.Text

/-! ## Letters and digits -/

theorem range_of_isAlphanum {c : Char} (h : c.isAlphanum = true) :
    (48 ≤ c.toNat ∧ c.toNat ≤ 57) ∨ (65 ≤ c.toNat ∧ c.toNat ≤ 90) ∨
      (97 ≤ c.toNat ∧ c.toNat ≤ 122) := by
  unfold Char.isAlphanum Char.isAlpha Char.isUpper Char.isLower Char.isDigit at h
  simp only [Bool.or_eq_true, Bool.and_eq_true, decide_eq_true_eq, ge_iff_le,
    UInt32.le_iff_toNat_le] at h
  have hnat : c.toNat = c.val.toNat := rfl
  have hnumbers : '0'.val.toNat = 48 ∧ '9'.val.toNat = 57 ∧ 'A'.val.toNat = 65 ∧
      'Z'.val.toNat = 90 ∧ 'a'.val.toNat = 97 ∧ 'z'.val.toNat = 122 := by decide
  omega

theorem toNat_lt_of_isAlphanum {c : Char} (h : c.isAlphanum = true) : c.toNat < 128 := by
  have hrange := range_of_isAlphanum h
  omega

theorem isBlank_eq_false_of_isAlphanum {c : Char} (h : c.isAlphanum = true) :
    isBlank c = false := by
  have hrange := range_of_isAlphanum h
  simp only [isBlank, Bool.or_eq_false_iff, Bool.and_eq_false_iff, decide_eq_false_iff_not,
    beq_eq_false_iff_ne]
  omega

theorem isAlphanum_of_isDigit {c : Char} (h : c.isDigit = true) : c.isAlphanum = true := by
  rw [Char.isAlphanum, h, Bool.or_true]

/-! ## Splits -/

/-- Splitting begins with what stands in front of the first delimiter. -/
theorem exists_splitOn_eq_cons (d : Char) (cs : List Char) :
    ∃ rest, cs.splitOn d = cs.takeWhile (· != d) :: rest := by
  induction cs with
  | nil => exact ⟨[], rfl⟩
  | cons c cs ih =>
    obtain ⟨rest, hrest⟩ := ih
    rw [List.splitOn_cons_eq_if_modifyHead]
    by_cases hc : c = d
    · rw [if_pos (by simpa using hc), List.takeWhile_cons_of_neg (by simpa using hc)]
      exact ⟨_, rfl⟩
    · rw [if_neg (by simpa using hc), List.takeWhile_cons_of_pos (by simpa using hc), hrest]
      exact ⟨rest, rfl⟩

/-- Every character of a text is a delimiter or stands between two. -/
theorem or_mem_splitOnP {p : Char → Bool} {cs : List Char} {c : Char} (hc : c ∈ cs) :
    p c = true ∨ ∃ piece ∈ cs.splitOnP p, c ∈ piece := by
  induction cs with
  | nil => cases hc
  | cons d cs ih =>
    rw [List.splitOnP_cons_eq_if_modifyHead]
    -- a delimiter opens a new piece, any other character goes to the first
    by_cases hd : p d = true
    · rw [if_pos hd]
      rcases List.mem_cons.mp hc with rfl | hc
      · exact .inl hd
      · rcases ih hc with hp | ⟨piece, hpiece, hmem⟩
        · exact .inl hp
        · exact .inr ⟨piece, List.mem_cons_of_mem _ hpiece, hmem⟩
    · rw [if_neg hd]
      obtain ⟨first, rest, hsplit⟩ := List.exists_cons_of_ne_nil (List.splitOnP_ne_nil p cs)
      rw [hsplit] at ih
      rw [hsplit, List.modifyHead_cons]
      rcases List.mem_cons.mp hc with rfl | hc
      · exact .inr ⟨_, List.mem_cons_self .., List.mem_cons_self ..⟩
      · rcases ih hc with hp | ⟨piece, hpiece, hmem⟩
        · exact .inl hp
        · rcases List.mem_cons.mp hpiece with rfl | hpiece
          · exact .inr ⟨_, List.mem_cons_self .., List.mem_cons_of_mem _ hmem⟩
          · exact .inr ⟨piece, List.mem_cons_of_mem _ hpiece, hmem⟩

/-- What stands in a piece stands in the text and is no delimiter. -/
theorem of_mem_splitOnP {p : Char → Bool} {cs piece : List Char} (h : piece ∈ cs.splitOnP p)
    {c : Char} (hc : c ∈ piece) : c ∈ cs ∧ p c = false := by
  induction cs generalizing piece with
  | nil =>
    obtain rfl := List.mem_singleton.mp (List.splitOnP_nil (p := p) ▸ h)
    cases hc
  | cons d cs ih =>
    rw [List.splitOnP_cons_eq_if_modifyHead] at h
    split at h
    · rcases List.mem_cons.mp h with rfl | h
      · cases hc
      · exact ⟨List.mem_cons_of_mem _ (ih h hc).1, (ih h hc).2⟩
    · rename_i hd
      obtain ⟨first, rest, hsplit⟩ := List.exists_cons_of_ne_nil (List.splitOnP_ne_nil p cs)
      rw [hsplit] at ih
      rw [hsplit, List.modifyHead_cons] at h
      rcases List.mem_cons.mp h with rfl | h
      · rcases List.mem_cons.mp hc with rfl | hc
        · exact ⟨List.mem_cons_self .., Bool.not_eq_true _ ▸ hd⟩
        · obtain ⟨hmem, hp⟩ := ih (List.mem_cons_self ..) hc
          exact ⟨List.mem_cons_of_mem _ hmem, hp⟩
      · obtain ⟨hmem, hp⟩ := ih (List.mem_cons_of_mem _ h) hc
        exact ⟨List.mem_cons_of_mem _ hmem, hp⟩

/-- Nothing between two delimiters holds one. -/
theorem not_mem_of_mem_splitOn {d : Char} {cs piece : List Char} (h : piece ∈ cs.splitOn d) :
    d ∉ piece := by
  intro hd
  have hnot := (of_mem_splitOnP h hd).2
  rw [beq_self_eq_true] at hnot
  cases hnot

theorem length_splitOn (d : Char) (cs : List Char) :
    (cs.splitOn d).length = cs.count d + 1 := by
  induction cs with
  | nil => rfl
  | cons c cs ih =>
    rw [List.splitOn_cons_eq_if_modifyHead, List.count_cons]
    split
    · rw [List.length_cons, ih]
    · rw [List.length_modifyHead, ih, Nat.add_zero]

/-- Pieces are told apart from those of any other text. -/
theorem splitOn_inj {d : Char} {a b : List Char} : a.splitOn d = b.splitOn d ↔ a = b := by
  constructor
  · intro h
    have hjoined := congrArg ([d].intercalate ·) h
    simpa only [List.intercalate_splitOn] using hjoined
  · rintro rfl
    rfl

/-! ## Words -/

theorem isBlank_or_mem_words {cs : List Char} {c : Char} (hc : c ∈ cs) :
    isBlank c = true ∨ ∃ w ∈ words cs, c ∈ w := by
  rcases or_mem_splitOnP (p := isBlank) hc with hblank | ⟨w, hw, hcw⟩
  · exact .inl hblank
  · refine .inr ⟨w, List.mem_filter.mpr ⟨hw, ?_⟩, hcw⟩
    cases w with
    | nil => cases hcw
    | cons d w => rfl

/-- What stands in a word stands in the text and is no blank. -/
theorem of_mem_words {cs w : List Char} (h : w ∈ words cs) {c : Char} (hc : c ∈ w) :
    c ∈ cs ∧ isBlank c = false :=
  of_mem_splitOnP (List.mem_filter.mp h).1 hc

/-- Words end at a blank. -/
theorem words_append_cons {c : Char} (hc : isBlank c = true) (front rest : List Char) :
    words (front ++ c :: rest) = words front ++ words rest := by
  unfold words
  rw [List.splitOnP_append_cons front rest hc, List.filter_append]

/-- A word is read off, whatever stands behind the blank that ends it. -/
theorem words_cons {w : List Char} (hne : w ≠ []) (hw : ∀ c ∈ w, isBlank c = false) {c : Char}
    (hc : isBlank c = true) (rest : List Char) : words (w ++ c :: rest) = w :: words rest := by
  have hword : words w = [w] := by
    unfold words
    rw [List.splitOnP_eq_singleton hw]
    exact List.filter_cons_of_pos (by simpa using hne)
  rw [words_append_cons hc, hword, List.singleton_append]

/-! ## Cuts -/

section Tests

variable {α : Type} {p : α → Bool} {a b : List α} {c : α}

theorem takeWhile_append_cons (ha : ∀ x ∈ a, p x = true) (hc : p c = false) :
    (a ++ c :: b).takeWhile p = a := by
  rw [List.takeWhile_append_of_pos ha, List.takeWhile_cons_of_neg (by simp [hc]), List.append_nil]

theorem dropWhile_append_cons (ha : ∀ x ∈ a, p x = true) (hc : p c = false) :
    (a ++ c :: b).dropWhile p = c :: b := by
  rw [List.dropWhile_append_of_pos ha, List.dropWhile_cons_of_neg (by simp [hc])]

end Tests

/-- A text is cut at its first delimiter in one way only. -/
theorem cut_unique {d : Char} {a b s t : List Char} (ha : d ∉ a) (hb : d ∉ b)
    (hs : ∀ c ∈ s.head?, c = d) (ht : ∀ c ∈ t.head?, c = d) (h : a ++ s = b ++ t) :
    a = b ∧ s = t := by
  -- the front part can be read off the whole: it is what stands before the first delimiter
  have hfront : ∀ {front rest : List Char}, d ∉ front → (∀ c ∈ rest.head?, c = d) →
      (front ++ rest).takeWhile (· != d) = front := by
    intro front rest hfront hrest
    have hkept : ∀ c ∈ front, (c != d) = true := by
      intro c hc
      rw [bne_iff_ne]
      rintro rfl
      exact hfront hc
    have hstop : rest.takeWhile (· != d) = [] := by
      cases rest with
      | nil => rfl
      | cons c rest => exact List.takeWhile_cons_of_neg (by simp [hrest c rfl])
    rw [List.takeWhile_append_of_pos hkept, hstop, List.append_nil]
  have hab : a = b := by rw [← hfront ha hs, h, hfront hb ht]
  rw [hab] at h
  exact ⟨hab, List.append_cancel_left h⟩

theorem cut_cons {d : Char} {a b s t : List Char} (ha : d ∉ a) (hb : d ∉ b)
    (h : a ++ d :: s = b ++ d :: t) : a = b ∧ s = t := by
  obtain ⟨hfront, hrest⟩ := cut_unique ha hb (by simp) (by simp) h
  exact ⟨hfront, (List.cons.inj hrest).2⟩

/-! ## Joined pieces -/

section Joined

variable {d : Char} {sep : List Char} {xs ys : List (List Char)}

theorem intercalate_cons (sep x : List Char) (xs : List (List Char)) :
    sep.intercalate (x :: xs) = x ++ xs.flatMap (sep ++ ·) := by
  induction xs generalizing x with
  | nil => rw [List.intercalate_singleton, List.flatMap_nil, List.append_nil]
  | cons y xs ih =>
    rw [List.intercalate_cons_cons, ih, List.flatMap_cons, List.append_assoc, List.append_assoc]

theorem of_mem_intercalate {c : Char} (h : c ∈ sep.intercalate xs) :
    c ∈ sep ∨ ∃ x ∈ xs, c ∈ x := by
  cases xs with
  | nil => cases h
  | cons x xs =>
    rw [intercalate_cons, List.mem_append, List.mem_flatMap] at h
    rcases h with h | ⟨y, hy, h⟩
    · exact .inr ⟨x, List.mem_cons_self .., h⟩
    · rcases List.mem_append.mp h with h | h
      · exact .inl h
      · exact .inr ⟨y, List.mem_cons_of_mem _ hy, h⟩

theorem intercalate_append (hxs : xs ≠ []) (ys : List (List Char)) :
    sep.intercalate (xs ++ ys) = sep.intercalate xs ++ ys.flatMap (sep ++ ·) := by
  obtain ⟨x, xs, rfl⟩ := List.exists_cons_of_ne_nil hxs
  rw [List.cons_append, intercalate_cons, intercalate_cons, List.flatMap_append, List.append_assoc]

/-- Pieces with a delimiter in front of each. -/
theorem head?_flatMap (xs : List (List Char)) :
    ∀ c ∈ (xs.flatMap (d :: sep ++ ·)).head?, c = d := by
  cases xs with
  | nil => simp
  | cons x xs => simp

theorem flatMap_inj (hxs : ∀ x ∈ xs, d ∉ x) (hys : ∀ y ∈ ys, d ∉ y)
    (h : xs.flatMap (d :: sep ++ ·) = ys.flatMap (d :: sep ++ ·)) : xs = ys := by
  induction xs generalizing ys with
  | nil =>
    cases ys with
    | nil => rfl
    | cons y ys => simp at h
  | cons x xs ih =>
    cases ys with
    | nil => simp at h
    | cons y ys =>
      rw [List.forall_mem_cons] at hxs hys
      rw [List.flatMap_cons, List.flatMap_cons, List.append_assoc, List.append_assoc] at h
      obtain ⟨rfl, hrest⟩ := cut_unique hxs.1 hys.1 (head?_flatMap xs) (head?_flatMap ys)
        (List.append_cancel_left h)
      rw [ih hxs.2 hys.2 hrest]

/-- **Pieces without a delimiter** are told from what is joined of them. -/
theorem intercalate_inj (hxs : xs ≠ []) (hys : ys ≠ []) (hx : ∀ x ∈ xs, d ∉ x)
    (hy : ∀ y ∈ ys, d ∉ y) (h : (d :: sep).intercalate xs = (d :: sep).intercalate ys) :
    xs = ys := by
  -- with a delimiter in front the first piece is like all others
  have hjoin : ∀ {zs : List (List Char)}, zs ≠ [] →
      zs.flatMap (d :: sep ++ ·) = d :: sep ++ (d :: sep).intercalate zs := by
    intro zs hzs
    obtain ⟨z, zs, rfl⟩ := List.exists_cons_of_ne_nil hzs
    rw [intercalate_cons, List.flatMap_cons, List.append_assoc]
  have hjoined : xs.flatMap (d :: sep ++ ·) = ys.flatMap (d :: sep ++ ·) := by
    rw [hjoin hxs, hjoin hys, h]
  exact flatMap_inj hx hy hjoined

/-- What is joined with a delimiter is split into the pieces of what has been joined. -/
theorem splitOn_intercalate (hxs : xs ≠ []) :
    ([d].intercalate xs).splitOn d = xs.flatMap (·.splitOn d) := by
  induction xs with
  | nil => exact absurd rfl hxs
  | cons x xs ih =>
    cases xs with
    | nil => rw [List.intercalate_singleton, List.flatMap_singleton]
    | cons y xs =>
      rw [List.intercalate_cons_cons, List.append_assoc, List.singleton_append,
        List.splitOn_append_cons_self, ih (List.cons_ne_nil _ _), ← List.flatMap_cons]

end Joined

/-! ## Blanks at the ends -/

theorem trimChars_cons {c : Char} (hc : isBlank c = true) (cs : List Char) :
    trimChars (c :: cs) = trimChars cs := by
  unfold trimChars
  rw [List.dropWhile_cons_of_pos hc]

theorem trimChars_concat {c : Char} (hc : isBlank c = true) (cs : List Char) :
    trimChars (cs ++ [c]) = trimChars cs := by
  unfold trimChars
  rw [List.dropWhile_append]
  split
  · rename_i hempty
    rw [List.isEmpty_iff.mp hempty, List.dropWhile_cons_of_pos hc, List.dropWhile_nil]
  · unfold dropBlankEnd
    rw [List.reverse_concat, List.dropWhile_cons_of_pos hc]

/-- Blanks at the ends are trimmed away, and nothing else is. -/
theorem trimChars_append {before cs after : List Char} (hbefore : ∀ c ∈ before, isBlank c = true)
    (hafter : ∀ c ∈ after, isBlank c = true) :
    trimChars (before ++ (cs ++ after)) = trimChars cs := by
  induction before with
  | nil =>
    -- the front is trimmed first, so the blanks at the end are removed one by one from behind
    rw [List.nil_append]
    induction after generalizing cs with
    | nil => rw [List.append_nil]
    | cons c after ih =>
      rw [List.forall_mem_cons] at hafter
      rw [List.append_cons, ih hafter.2, trimChars_concat hafter.1]
  | cons c before ih =>
    rw [List.forall_mem_cons] at hbefore
    rw [List.cons_append, trimChars_cons hbefore.1, ih hbefore.2]

theorem trimChars_eq_self {cs : List Char} (hhead : ∀ c ∈ cs.head?, isBlank c = false)
    (hlast : ∀ c ∈ cs.getLast?, isBlank c = false) : trimChars cs = cs := by
  have hdrop : ∀ {cs : List Char}, (∀ c ∈ cs.head?, isBlank c = false) →
      cs.dropWhile isBlank = cs := by
    intro cs h
    cases cs with
    | nil => rfl
    | cons c cs => exact List.dropWhile_cons_of_neg (by simp [h c rfl])
  have hreverse : ∀ c ∈ cs.reverse.head?, isBlank c = false := by
    rwa [List.head?_reverse]
  unfold trimChars dropBlankEnd
  rw [hdrop hhead, hdrop hreverse, List.reverse_reverse]

theorem exists_trimChars (cs : List Char) : ∃ before after,
    cs = before ++ (trimChars cs ++ after) ∧ (∀ c ∈ before, isBlank c = true) ∧
      ∀ c ∈ after, isBlank c = true := by
  have hfront := List.takeWhile_append_dropWhile (p := isBlank) (l := cs)
  have hback := List.takeWhile_append_dropWhile (p := isBlank) (l := (cs.dropWhile isBlank).reverse)
  refine ⟨cs.takeWhile isBlank, ((cs.dropWhile isBlank).reverse.takeWhile isBlank).reverse, ?_,
    fun c hc => List.mem_takeWhile_imp hc,
    fun c hc => List.mem_takeWhile_imp (List.mem_reverse.mp hc)⟩
  unfold trimChars dropBlankEnd
  rw [← List.reverse_append, hback, List.reverse_reverse, hfront]

/-- A text with nothing but blanks around one of its parts. -/
def IsAmidBlanks (part text : String) : Prop :=
  ∃ before after, text.toList = before ++ (part.toList ++ after) ∧
    (∀ c ∈ before, isBlank c = true) ∧ ∀ c ∈ after, isBlank c = true

/-- A text that is written in ASCII, whatever the blanks between its words. -/
def HasAsciiWords (text : String) : Prop :=
  ∀ c ∈ text.toList, isBlank c = true ∨ c.toNat < 128

theorem HasAsciiWords.toNat_lt {text : String} (h : HasAsciiWords text) {c : Char}
    (hc : c ∈ text.toList) (hblank : isBlank c = false) : c.toNat < 128 := by
  refine (h c hc).resolve_left ?_
  rw [hblank]
  exact Bool.false_ne_true

theorem isAmidBlanks_trim (text : String) : IsAmidBlanks (trim text) text := by
  rw [IsAmidBlanks, trim, String.toList_ofList]
  exact exists_trimChars text.toList

/-- A part without blanks at its ends is all that trimming leaves. -/
theorem IsAmidBlanks.trimChars_eq {part text : String} (h : IsAmidBlanks part text)
    (hpart : trimChars part.toList = part.toList) : trimChars text.toList = part.toList := by
  obtain ⟨before, after, htext, hbefore, hafter⟩ := h
  rw [htext, trimChars_append hbefore hafter, hpart]

end SchemaKit.Text
