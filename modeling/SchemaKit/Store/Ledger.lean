import SchemaKit.Migration.Tracking

/-!
# Ledgers

The contents of a tracking table: records in ascending order of their versions, one for each.
-/

namespace SchemaKit

/-- Records of applied migrations, in strictly ascending order of their versions. -/
structure Ledger where
  records : List Applied
  sorted : records.Pairwise fun a b => a.version < b.version

namespace Ledger

/-- The records with one put into its place, over one of the same version. -/
def putRecord (a : Applied) : List Applied → List Applied
  | [] => [a]
  | b :: rest =>
    if a.version < b.version then a :: b :: rest
    else if a.version = b.version then a :: rest
    else b :: putRecord a rest

theorem mem_putRecord {a x : Applied} {l : List Applied} (h : x ∈ putRecord a l) :
    x = a ∨ x ∈ l := by
  induction l with
  | nil => simpa [putRecord] using h
  | cons b rest ih =>
    unfold putRecord at h
    split at h
    · simpa using h
    · split at h
      · rcases List.mem_cons.1 h with h | h
        · exact .inl h
        · exact .inr (List.mem_cons_of_mem _ h)
      · rcases List.mem_cons.1 h with h | h
        · exact .inr (h ▸ List.mem_cons_self)
        · exact (ih h).imp_right (List.mem_cons_of_mem _)

theorem sorted_putRecord {a : Applied} {l : List Applied}
    (h : l.Pairwise fun a b => a.version < b.version) :
    (putRecord a l).Pairwise fun a b => a.version < b.version := by
  induction l with
  | nil => simp [putRecord]
  | cons b rest ih =>
    obtain ⟨hb, hrest⟩ := List.pairwise_cons.1 h
    unfold putRecord
    split
    · rename_i hab
      exact List.pairwise_cons.2 ⟨fun x hx => by
        rcases List.mem_cons.1 hx with rfl | hx
        · exact hab
        · exact Int64.lt_trans hab (hb x hx), h⟩
    · split
      · rename_i hab
        exact List.pairwise_cons.2 ⟨fun x hx => hab ▸ hb x hx, hrest⟩
      · rename_i hlt hne
        exact List.pairwise_cons.2 ⟨fun x hx => by
          rcases mem_putRecord hx with rfl | hx
          · exact Int64.lt_of_le_of_ne (Int64.not_lt.1 hlt) fun hc => hne hc.symm
          · exact hb x hx, ih hrest⟩

def empty : Ledger := ⟨[], List.Pairwise.nil⟩

instance : EmptyCollection Ledger := ⟨empty⟩
instance : Inhabited Ledger := ⟨empty⟩

def versions (l : Ledger) : List Int64 :=
  l.records.map Applied.version

def contains (l : Ledger) (version : Int64) : Bool :=
  l.records.any fun a => a.version = version

/-- Puts a record into its place, over one of the same version. -/
def put (l : Ledger) (a : Applied) : Ledger :=
  ⟨putRecord a l.records, sorted_putRecord l.sorted⟩

def erase (l : Ledger) (version : Int64) : Ledger :=
  ⟨l.records.filter fun a => a.version ≠ version, l.sorted.filter _⟩

@[simp] theorem records_empty : empty.records = [] := rfl

@[ext] theorem ext {a b : Ledger} (h : a.records = b.records) : a = b := by
  cases a
  cases b
  cases h
  rfl

end Ledger

end SchemaKit
