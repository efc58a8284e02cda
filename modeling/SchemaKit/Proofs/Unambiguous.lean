import SchemaKit.Proofs.Inert
import SchemaKit.Proofs.Placeholders

/-!
# Unambiguous inserts

The text of an INSERT tells what it was built from.  Names hold neither a dot nor a blank nor a
comma nor a parenthesis, so each is cut off at the first of these; the number of columns tells the
groups of placeholders; and trusted text, which may hold anything, begins with a blank where a
further group would begin with a comma (`Insert.groups_append_inj`).
-/

namespace SchemaKit

open Sql

/-! ## Names -/

namespace Sql.Identifier

/-- Only letters, digits and underscores stand in names. -/
theorem not_mem {name : String} (h : isIdentifier name = true) {c : Char}
    (hc : isPart c = false) : c ∉ name.toList := by
  intro hmem
  rw [isPart_of_isIdentifier h c hmem] at hc
  cases hc

/-- A name ends at the first character that cannot stand in it. -/
theorem cut {name name' : String} {c : Char} {a b : List Char} (h : isIdentifier name = true)
    (h' : isIdentifier name' = true) (hc : isPart c = false)
    (heq : name.toList ++ c :: a = name'.toList ++ c :: b) : name = name' ∧ a = b := by
  obtain ⟨hname, hrest⟩ := Text.cut_cons (not_mem h hc) (not_mem h' hc) heq
  exact ⟨String.toList_injective hname, hrest⟩

end Sql.Identifier

namespace Statement

theorem toList_commaList (items : List String) :
    (commaList items).toList = [',', ' '].intercalate (items.map String.toList) := by
  rw [commaList, String.toList_intercalate]
  rfl

/-- A list of names ends at the first parenthesis, and its commas stand between the names. -/
theorem cut_commaList {ns ns' : List String} {a b : List Char} (hne : ns ≠ []) (hne' : ns' ≠ [])
    (h : ∀ n ∈ ns, Identifier.isIdentifier n = true)
    (h' : ∀ n ∈ ns', Identifier.isIdentifier n = true)
    (heq : (commaList ns).toList ++ ')' :: a = (commaList ns').toList ++ ')' :: b) :
    ns = ns' ∧ a = b := by
  have hclosing : ∀ {ns : List String}, (∀ n ∈ ns, Identifier.isIdentifier n = true) →
      ')' ∉ (commaList ns).toList := by
    intro ns h hmem
    have hinert : IsInert (commaList ns) :=
      IsInert.intercalate (by rfl) fun n hn => isInert_of_isIdentifier (h n hn)
    exact absurd (isInert_iff.mp hinert _ hmem) (by decide)
  have hcomma : ∀ {ns : List String}, (∀ n ∈ ns, Identifier.isIdentifier n = true) →
      ∀ cs ∈ ns.map String.toList, ',' ∉ cs := by
    intro ns h cs hcs
    obtain ⟨n, hn, rfl⟩ := List.mem_map.mp hcs
    exact Identifier.not_mem (h n hn) (by decide)
  obtain ⟨hlist, hrest⟩ := Text.cut_cons (hclosing h) (hclosing h') heq
  rw [toList_commaList, toList_commaList] at hlist
  have hchars := Text.intercalate_inj (List.map_eq_nil_iff.not.mpr hne)
    (List.map_eq_nil_iff.not.mpr hne') (hcomma h) (hcomma h') hlist
  exact ⟨List.map_injective_iff.mpr (fun _ _ => String.toList_injective) hchars, hrest⟩

end Statement

namespace Insert

open Statement

variable {s s' : Insert}

/-! ## Groups -/

/-- More rows have all groups of fewer rows in front. -/
theorem exists_toList_groups (w : Nat) {n n' : Nat} (hn : 0 < n) (h : n < n') :
    ∃ rest, (commaList (groups w n')).toList = (commaList (groups w n)).toList ++ ',' :: rest := by
  obtain ⟨k, rfl⟩ := Nat.exists_eq_add_of_lt h
  -- the groups of the first rows do not depend on how many follow
  have hsplit : groups w (n + k + 1) = groups w n ++
      (List.range (k + 1)).map fun i => group ((n + i) * w + 1) w := by
    unfold groups
    rw [Nat.add_assoc, List.range_add, List.map_append, List.map_map]
    rfl
  have hne : (groups w n).map String.toList ≠ [] := by
    simp [groups, Nat.ne_of_gt hn]
  rw [toList_commaList, toList_commaList, hsplit, List.map_append, Text.intercalate_append hne,
    List.range_succ_eq_map, List.map_cons, List.map_cons, List.flatMap_cons]
  exact ⟨_, rfl⟩

/-- **Where the groups end** is told by what follows, unless this begins with a comma. -/
theorem groups_append_inj {w n n' : Nat} {a b : List Char} (hn : 0 < n) (hn' : 0 < n')
    (ha : ∀ c ∈ a.head?, c ≠ ',') (hb : ∀ c ∈ b.head?, c ≠ ',')
    (h : (commaList (groups w n)).toList ++ a = (commaList (groups w n')).toList ++ b) :
    n = n' ∧ a = b := by
  -- with more groups there would be a comma where the rest begins
  have hlt : ∀ {n n' : Nat} {a b : List Char}, 0 < n → (∀ c ∈ a.head?, c ≠ ',') →
      (commaList (groups w n)).toList ++ a = (commaList (groups w n')).toList ++ b → ¬n < n' := by
    intro n n' a b hn ha heq hlt
    obtain ⟨rest, hrest⟩ := exists_toList_groups w hn hlt
    rw [hrest, List.append_assoc] at heq
    have hcomma := List.append_cancel_left heq
    exact ha ',' (by rw [hcomma]; rfl) rfl
  obtain rfl : n = n' :=
    Nat.le_antisymm (Nat.not_lt.mp (hlt hn' hb h.symm)) (Nat.not_lt.mp (hlt hn ha h))
  exact ⟨rfl, List.append_cancel_left h⟩

/-! ## Texts -/

theorem toList_text (s : Insert) (n : Nat) : (s.text n).toList = "INSERT INTO ".toList ++
    (s.schema.toList ++ '.' :: (s.table.toList ++ ' ' :: '(' :: ((commaList s.columns).toList ++
      ')' :: (" VALUES ".toList ++
        ((commaList (groups s.columns.length n)).toList ++ s.conflictText.toList))))) := by
  unfold text qualified conflictText
  simp only [String.toList_append, List.append_assoc]
  rfl

/-- A clause for conflicts is told from what it adds. -/
theorem onConflict_of_conflictText (h : s.conflictText = s'.conflictText) :
    s.onConflict = s'.onConflict := by
  unfold conflictText at h
  have hchars := congrArg String.toList h
  cases hclause : s.onConflict <;> cases hclause' : s'.onConflict
  all_goals simp only [hclause, hclause', String.toList_append] at hchars
  · rfl
  · simp at hchars
  · simp at hchars
  · exact congrArg some (String.toList_injective (List.append_cancel_left hchars))

/-- What a text was built from: each part of it ends at the first character that it cannot hold. -/
theorem eq_of_text_eq (h : s.check = .ok ()) (h' : s'.check = .ok ()) {n n' : Nat} (hn : 0 < n)
    (hn' : 0 < n') (heq : s.text n = s'.text n') :
    s.schema = s'.schema ∧ s.table = s'.table ∧ s.columns = s'.columns ∧
      s.onConflict = s'.onConflict ∧ n = n' := by
  obtain ⟨hnames, hne, hcolumns⟩ := check_eq_ok_iff.mp h
  obtain ⟨hnames', hne', hcolumns'⟩ := check_eq_ok_iff.mp h'
  have hblank : ∀ s : Insert, ∀ c ∈ s.conflictText.toList.head?, c ≠ ',' := by
    intro s c hc
    rw [s.head?_conflictText c hc]
    decide
  have hchars := congrArg String.toList heq
  rw [toList_text, toList_text] at hchars
  -- from left to right: what is in front of a cut is equal, and what is behind it goes on
  obtain ⟨hschema, hchars⟩ := Identifier.cut (hnames s.schema (by simp))
    (hnames' s'.schema (by simp)) (by decide) (List.append_cancel_left hchars)
  obtain ⟨htable, hchars⟩ := Identifier.cut (hnames s.table (by simp))
    (hnames' s'.table (by simp)) (by decide) hchars
  obtain ⟨hlist, hchars⟩ := cut_commaList hne hne' hcolumns hcolumns' (List.cons.inj hchars).2
  rw [hlist] at hchars
  obtain ⟨hrows, hclause⟩ := groups_append_inj hn hn' (hblank s) (hblank s')
    (List.append_cancel_left hchars)
  exact ⟨hschema, htable, hlist,
    onConflict_of_conflictText (String.toList_injective hclause), hrows⟩

/-! ## Statements -/

variable {rows rows' : List Row} {q q' : Statement}

theorem Yields.ne_nil (h : s.Yields rows q) : rows ≠ [] := by
  rcases h with h | ⟨row, rfl, -⟩
  · exact (buildBatch_eq_ok_iff.mp h).2.1
  · exact List.cons_ne_nil _ _

/-- **The text of an INSERT is unambiguous.**  Two statements with one text were built from the same
schema, table, columns and clause for conflicts, and for as many rows, whatever the clauses hold. -/
theorem text_determines_insert (h : s.Yields rows q) (h' : s'.Yields rows' q')
    (heq : q.sql = q'.sql) :
    s.schema = s'.schema ∧ s.table = s'.table ∧ s.columns = s'.columns ∧
      s.onConflict = s'.onConflict ∧ rows.length = rows'.length := by
  obtain ⟨hcheck, rfl⟩ := h.eq
  obtain ⟨hcheck', rfl⟩ := h'.eq
  exact eq_of_text_eq hcheck hcheck' (List.length_pos_iff.mpr h.ne_nil)
    (List.length_pos_iff.mpr h'.ne_nil) heq

/-- A clause that imitates another group and another clause.  A row by itself and a batch of another
row have one text, which is not that of two rows with the other clause. -/
theorem text_determines_insert_of_imitation :
    let s : Insert := { table := "t", columns := ["a"], onConflict := some ", ($2) ON CONFLICT x" }
    let s' : Insert := { s with onConflict := some "x" }
    let a : Row := ⟨[("a", .int 1)], by decide⟩
    let b : Row := ⟨[("b", .int 2)], by decide⟩
    ∃ q q' q'', s.Yields [a] q ∧ s.Yields [b] q' ∧ s'.Yields [a, b] q'' ∧ q.sql = q'.sql ∧
      (s.schema = s.schema ∧ s.table = s.table ∧ s.columns = s.columns ∧
        s.onConflict = s.onConflict ∧ [a].length = [b].length) ∧ q.sql ≠ q''.sql := by
  intro s s' a b
  have hcheck : s.check = .ok () := check_eq_ok_iff.mpr (by decide)
  have hcheck' : s'.check = .ok () := check_eq_ok_iff.mpr (by decide)
  have hrow : s.Yields [a] ⟨s.text 1, s.rowParams a⟩ := .inr ⟨a, rfl, build_of_check hcheck a⟩
  have hbatch : s.Yields [b] ⟨s.text 1, [b].flatMap s.rowParams⟩ :=
    .inl (buildBatch_eq_ok_iff.mpr ⟨hcheck, by simp, by decide, rfl⟩)
  have hrows : s'.Yields [a, b] ⟨s'.text 2, [a, b].flatMap s'.rowParams⟩ :=
    .inl (buildBatch_eq_ok_iff.mpr ⟨hcheck', by simp, by decide, rfl⟩)
  refine ⟨_, _, _, hrow, hbatch, hrows, rfl, text_determines_insert hrow hbatch rfl, fun heq => ?_⟩
  obtain ⟨-, -, -, -, hlength⟩ := text_determines_insert hrow hrows heq
  exact absurd hlength (by decide)

end Insert

end SchemaKit
