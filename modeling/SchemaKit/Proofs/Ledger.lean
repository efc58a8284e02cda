import Mathlib.Data.List.Perm.Basic
import Mathlib.Data.List.Nodup
import SchemaKit.Store.Ledger

/-!
# Ledgers as sets of records

A ledger is sorted, so what is in it also gives the order (`eq_of_perm_of_ascending`).  Putting a
record of a new version adds that record and nothing else, and erasing the highest version takes the
last record off.
-/

namespace SchemaKit

/-- What a tracking table says of a migration: its version and its name, the moment left aside. -/
def Applied.entry (a : Applied) : Int64 × String :=
  (a.version, a.name)

namespace Ledger

/-- What a tracking table says, the moments left aside. -/
def entries (l : Ledger) : List (Int64 × String) :=
  l.records.map Applied.entry

variable {l : Ledger} {a b : Applied} {v : Int64}

theorem map_fst_entries (l : Ledger) : l.entries.map Prod.fst = l.versions := by
  simp [entries, versions, Applied.entry]

theorem pairwise_entries (l : Ledger) : l.entries.Pairwise fun a b => a.1 < b.1 :=
  List.pairwise_map.mpr l.sorted

theorem contains_iff : l.contains v = true ↔ v ∈ l.versions := by
  simp [contains, versions]

theorem contains_eq_false_iff : l.contains v = false ↔ v ∉ l.versions := by
  rw [← contains_iff, Bool.not_eq_true]

theorem pairwise_versions (l : Ledger) : l.versions.Pairwise (· < ·) :=
  List.pairwise_map.mpr l.sorted

theorem nodup_versions (l : Ledger) : l.versions.Nodup := by
  refine List.Pairwise.imp ?_ l.pairwise_versions
  rintro v _ h rfl
  exact Int64.lt_irrefl h

/-- Lists in strictly ascending order of versions are equal if they hold the same elements. -/
theorem eq_of_perm_of_ascending {α : Type} {f : α → Int64} {as bs : List α}
    (ha : as.Pairwise fun x y => f x < f y) (hb : bs.Pairwise fun x y => f x < f y)
    (h : as.Perm bs) : as = bs :=
  h.eq_of_pairwise (fun _ _ _ _ hxy hyx => absurd hyx (Int64.lt_asymm hxy)) ha hb

theorem putRecord_perm {rs : List Applied} (h : a.version ∉ rs.map Applied.version) :
    (putRecord a rs).Perm (rs ++ [a]) := by
  induction rs with
  | nil => exact List.Perm.refl _
  | cons b rest ih =>
    rw [List.map_cons, List.mem_cons, not_or] at h
    unfold putRecord
    split
    · exact (List.perm_append_singleton a (b :: rest)).symm
    · rw [if_neg h.1]
      exact (ih h.2).cons b

theorem records_put_perm (h : l.contains a.version = false) :
    (l.put a).records.Perm (l.records ++ [a]) :=
  putRecord_perm (contains_eq_false_iff.mp h)

/-- Erasing the highest version takes the last record off. -/
theorem records_erase_last {rs : List Applied} (h : l.records = rs ++ [a]) :
    (l.erase a.version).records = rs := by
  have hs := l.sorted
  rw [h] at hs
  have hlt : ∀ b ∈ rs, b.version < a.version := fun b hb =>
    (List.pairwise_append.mp hs).2.2 b hb a (List.mem_singleton_self a)
  have hne : ∀ b ∈ rs, decide (b.version ≠ a.version) = true := fun b hb =>
    decide_eq_true fun e => Int64.lt_irrefl (e ▸ hlt b hb)
  change l.records.filter (fun b => decide (b.version ≠ a.version)) = rs
  rw [h, List.filter_append, List.filter_eq_self.mpr hne]
  simp

end Ledger

end SchemaKit
