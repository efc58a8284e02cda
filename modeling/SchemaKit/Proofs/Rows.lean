import Mathlib.Data.List.Induction
import Mathlib.Data.List.Nodup
import SchemaKit.Row

/-!
# Rows as maps

A row that is made by setting columns one after the other has each column once, where it came first
(`columns_ofList`), with the value that it was set to last (`get?_ofList`).
-/

namespace SchemaKit

/-! ## Lists without repetition -/

section EraseDups

variable {α : Type} [BEq α] [LawfulBEq α]

theorem eraseDups_concat_of_mem {a : α} {l : List α} (h : a ∈ l) :
    (l ++ [a]).eraseDups = l.eraseDups := by
  have hnone : [a].removeAll l = [] := by
    unfold List.removeAll
    rw [List.filter_cons_of_neg (by simp [h]), List.filter_nil]
  rw [List.eraseDups_append, hnone, List.eraseDups_nil, List.append_nil]

theorem eraseDups_concat_of_not_mem {a : α} {l : List α} (h : a ∉ l) :
    (l ++ [a]).eraseDups = l.eraseDups ++ [a] := by
  have hall : [a].removeAll l = [a] := by
    unfold List.removeAll
    rw [List.filter_cons_of_pos (by simp [h]), List.filter_nil]
  rw [List.eraseDups_append, hall]
  rfl

/-- What comes first stays, in order. -/
theorem eraseDups_sublist (l : List α) : l.eraseDups.Sublist l := by
  induction l using List.reverseRecOn with
  | nil => exact List.Sublist.refl _
  | append_singleton l a ih =>
    by_cases ha : a ∈ l
    · rw [eraseDups_concat_of_mem ha]
      exact ih.trans (List.sublist_append_left l [a])
    · rw [eraseDups_concat_of_not_mem ha]
      exact ih.append (List.Sublist.refl [a])

theorem eraseDups_eq_self_of_nodup {l : List α} (h : l.Nodup) : l.eraseDups = l := by
  induction l using List.reverseRecOn with
  | nil => rfl
  | append_singleton l a ih =>
    obtain ⟨hl, -, hdisjoint⟩ := List.nodup_append.mp h
    have ha : a ∉ l := fun ha => hdisjoint a ha a (List.mem_singleton_self a) rfl
    rw [eraseDups_concat_of_not_mem ha, ih hl]

end EraseDups

/-! ## Setting columns -/

namespace Row

variable {row : Row} {column : String} {value : Value}

theorem columns_insert_of_mem (h : column ∈ row.columns) :
    (row.insert column value).columns = row.columns := by
  unfold columns at h ⊢
  rw [entries_insert, map_fst_setEntry, if_pos h]

theorem columns_insert_of_not_mem (h : column ∉ row.columns) :
    (row.insert column value).columns = row.columns ++ [column] := by
  unfold columns at h ⊢
  rw [entries_insert, map_fst_setEntry, if_neg h]

theorem find?_setEntry_self (es : List (String × Value)) :
    (setEntry column value es).find? (fun e => e.1 = column) = some (column, value) := by
  induction es with
  | nil => simp [setEntry]
  | cons e rest ih =>
    by_cases h : e.1 = column
    · simp [setEntry, h]
    · rw [setEntry, if_neg h, List.find?_cons_of_neg (by simpa using h), ih]

theorem find?_setEntry_of_ne {other : String} (h : other ≠ column) (es : List (String × Value)) :
    (setEntry column value es).find? (fun e => e.1 = other) = es.find? fun e => e.1 = other := by
  induction es with
  | nil => simp [setEntry, h.symm]
  | cons e rest ih =>
    by_cases he : e.1 = column
    · have hold : ¬e.1 = other := fun ho => h (ho.symm.trans he)
      rw [setEntry, if_pos he, List.find?_cons_of_neg (by simpa using h.symm),
        List.find?_cons_of_neg (by simpa using hold)]
    · rw [setEntry, if_neg he, List.find?_cons, List.find?_cons, ih]

theorem get?_insert_self : (row.insert column value).get? column = some value := by
  rw [get?, entries_insert, find?_setEntry_self]
  rfl

theorem get?_insert_of_ne {other : String} (h : other ≠ column) :
    (row.insert column value).get? other = row.get? other := by
  rw [get?, entries_insert, find?_setEntry_of_ne h]
  rfl

/-! ## Rows of pairs -/

theorem ofList_concat (pairs : List (String × Value)) (p : String × Value) :
    ofList (pairs ++ [p]) = (ofList pairs).insert p.1 p.2 := by
  unfold ofList
  rw [List.foldl_append]
  rfl

/-- **The columns** of a row stand in the order in which they came first. -/
theorem columns_ofList (pairs : List (String × Value)) :
    (ofList pairs).columns = (pairs.map Prod.fst).eraseDups := by
  induction pairs using List.reverseRecOn with
  | nil => rfl
  | append_singleton pairs p ih =>
    -- whether the last pair brings a new column can be read off the pairs
    have hmem : p.1 ∈ (ofList pairs).columns ↔ p.1 ∈ pairs.map Prod.fst := by
      rw [ih, List.mem_eraseDups]
    rw [ofList_concat, List.map_append, List.map_singleton]
    by_cases hp : p.1 ∈ pairs.map Prod.fst
    · rw [eraseDups_concat_of_mem hp, columns_insert_of_mem (hmem.mpr hp), ih]
    · rw [eraseDups_concat_of_not_mem hp, columns_insert_of_not_mem (mt hmem.mp hp), ih]

/-- **The value** of a column is the last that it was set to. -/
theorem get?_ofList (pairs : List (String × Value)) (column : String) :
    (ofList pairs).get? column =
      (pairs.reverse.find? fun p => p.1 = column).map Prod.snd := by
  induction pairs using List.reverseRecOn with
  | nil => rfl
  | append_singleton pairs p ih =>
    rw [ofList_concat, List.reverse_append, List.reverse_singleton, List.singleton_append]
    -- a later value takes the place of an earlier one, so the last pair is looked at first
    by_cases hp : p.1 = column
    · rw [List.find?_cons_of_pos (by simpa using hp), ← hp, get?_insert_self]
      rfl
    · rw [List.find?_cons_of_neg (by simpa using hp), get?_insert_of_ne (Ne.symm hp), ih]

end Row

end SchemaKit
