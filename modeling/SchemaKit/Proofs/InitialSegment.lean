import SchemaKit.Proofs.Firsts
import SchemaKit.Proofs.Migrate
import SchemaKit.Proofs.Rollback

/-!
# Initial segments

The rows of a tracking table form an initial segment of a directory if they are those of the first
file of each of its smallest versions (`Ledger.IsInitial`).  Applying what is pending leads from one
initial segment to a longer one, and taking back to a shorter one, however far either comes.
-/

namespace SchemaKit

open Migration (firsts firsts_of_isPrefix firsts_filter)

variable {found : List Migration}

/-- The rows are those of the first file of each of the smallest versions among the files found. -/
def Ledger.IsInitial (l : Ledger) (found : List Migration) : Prop :=
  l.entries <+: (firsts found).map Migration.entry

/-- The record of a migration that is applied at a given moment. -/
def Migration.recordAt (now : Timestamp) (x : Migration) : Applied :=
  ⟨x.version, x.name, now⟩

namespace Ledger.IsInitial

variable {l : Ledger} {a : Applied} {x : Migration}

theorem of_empty (h : l = ∅) : l.IsInitial found := by
  rw [h]
  exact List.nil_prefix

theorem length_le (h : l.IsInitial found) : l.records.length ≤ (firsts found).length := by
  simpa [Ledger.entries] using List.IsPrefix.length_le h

/-- The rows are as many of the firsts as there are records. -/
theorem entries_eq (h : l.IsInitial found) :
    l.entries = ((firsts found).take l.records.length).map Migration.entry := by
  have htake := List.prefix_iff_eq_take.mp h
  rw [← List.map_take] at htake
  simpa [Ledger.entries] using htake

theorem versions_eq (h : l.IsInitial found) :
    l.versions = ((firsts found).take l.records.length).map Migration.version := by
  rw [← l.map_fst_entries, h.entries_eq, List.map_map]
  rfl

/-- **No gap**: with a version all smaller ones are recorded. -/
theorem version_mem (h : l.IsInitial found)
    (hfound : found.Pairwise fun x y => x.version ≤ y.version) (hx : x ∈ found)
    (ha : a ∈ l.records) (hxa : x.version ≤ a.version) : x.version ∈ l.versions := by
  obtain ⟨y, hy, hyx⟩ := Migration.exists_mem_firsts hx
  have hav : a.version ∈ l.versions := List.mem_map_of_mem ha
  rw [h.versions_eq, List.mem_map] at hav ⊢
  obtain ⟨z, hz, hza⟩ := hav
  have hasc := Migration.pairwise_firsts hfound
  rw [← List.take_append_drop l.records.length (firsts found)] at hy hasc
  rcases List.mem_append.mp hy with hy | hy
  · exact ⟨y, hy, hyx⟩
  · -- behind the segment all versions are greater than those in it
    have hzy := (List.pairwise_append.mp hasc).2.2 z hz y hy
    rw [hza, hyx] at hzy
    exact absurd hzy (Int64.not_lt.mpr hxa)

/-- **A record leads back to its file**: the first file of its version has its name. -/
theorem exists_find? (h : l.IsInitial found) (ha : a ∈ l.records) :
    ∃ x, (found.find? fun y => y.version = a.version) = some x ∧ x.name = a.name := by
  have hae : a.entry ∈ (firsts found).map Migration.entry :=
    h.subset (List.mem_map_of_mem ha)
  obtain ⟨x, hx, he⟩ := List.mem_map.mp hae
  obtain ⟨hv, hn⟩ := Prod.mk.inj he
  refine ⟨x, ?_, hn⟩
  rw [← hv]
  exact Migration.mem_firsts_iff.mp hx

/-- **What is pending continues the segment**: its firsts come right behind those applied. -/
theorem firsts_notApplied (h : l.IsInitial found)
    (hfound : found.Pairwise fun x y => x.version ≤ y.version) (target : Option Version) :
    firsts (Migrator.notApplied l.versions target found) <+:
      (firsts found).drop l.records.length := by
  have hasc := Migration.pairwise_firsts hfound
  have hswap : firsts (Migrator.notApplied l.versions target found) =
      ((firsts found).filter fun x => !l.versions.contains x.version).filter
        fun x => Migrator.within target x.version := by
    rw [List.filter_filter]
    refine (firsts_filter (fun v => !l.versions.contains v && Migrator.within target v)
      found).trans ?_
    exact List.filter_congr fun x _ => Bool.and_comm _ _
  rw [hswap, h.versions_eq, Migration.filter_not_taken hasc]
  refine Migration.filter_isPrefix (hasc.sublist (List.drop_sublist _ _)) ?_
  intro v w hvw hw
  cases target with
  | none => rfl
  | some t =>
    have hwt : w ≤ t := of_decide_eq_true hw
    exact decide_eq_true (Int64.le_trans (Int64.le_of_lt hvw) hwt)

end Ledger.IsInitial

namespace Migrator

variable {m : Migrator} {folder : Folder} {s : Store} {b b' : Books}

/-- A part of what is pending, from the front, in which no version comes twice, holds the first files
of its versions. -/
theorem find?_of_notApplied {finished : List Migration} {versions : List Version}
    {target : Option Version} {x : Migration} (hnodup : (finished.map Migration.version).Nodup)
    (hfront : finished <+: notApplied versions target found) (hx : x ∈ finished) :
    (found.find? fun y => y.version = x.version) = some x := by
  rw [← Migration.firsts_eq_self hnodup] at hx
  have hpending := (firsts_of_isPrefix hfront).subset hx
  unfold notApplied at hpending
  rw [firsts_filter fun v => !versions.contains v && within target v] at hpending
  exact Migration.mem_firsts_iff.mp (List.mem_filter.mp hpending).1

theorem Adds.perm_entries {l : List Migration} (h : m.Adds folder s b l b') :
    b'.ledger.entries.Perm (b.ledger.entries ++ l.map Migration.entry) := by
  have hrows := h.rows.map Applied.entry
  rw [List.map_append, List.map_map] at hrows
  exact hrows

theorem Adds.perm_versions {l : List Migration} (h : m.Adds folder s b l b') :
    b'.ledger.versions.Perm (b.ledger.versions ++ l.map Migration.version) := by
  have hrows := h.rows.map Applied.version
  rw [List.map_append, List.map_map] at hrows
  exact hrows

/-- New records above all old ones come behind them. -/
theorem Adds.records_eq {l : List Migration} (h : m.Adds folder s b l b')
    (hl : l.Pairwise fun x y => x.version < y.version)
    (hlower : ∀ v ∈ b.ledger.versions, ∀ x ∈ l, v < x.version) :
    b'.ledger.records = b.ledger.records ++ l.map (Migration.recordAt s.clock) := by
  have hsorted : (b.ledger.records ++ l.map (Migration.recordAt s.clock)).Pairwise
      fun a a' => a.version < a'.version := by
    refine List.pairwise_append.mpr ⟨b.ledger.sorted, List.pairwise_map.mpr hl, ?_⟩
    intro a ha a' ha'
    obtain ⟨x, hx, rfl⟩ := List.mem_map.mp ha'
    exact hlower _ (List.mem_map_of_mem ha) x hx
  exact Ledger.eq_of_perm_of_ascending b'.ledger.sorted hsorted h.rows

theorem Adds.nodup_versions {l : List Migration} (h : m.Adds folder s b l b') :
    (l.map Migration.version).Nodup :=
  (h.perm_versions.nodup_iff.mp b'.ledger.nodup_versions).of_append_right

/-- **Applying** a part of what is pending, from the front, puts its rows behind the others and
leaves an initial segment. -/
theorem Adds.isInitial {finished : List Migration} {target : Option Version}
    (h : m.Adds folder s b finished b') (hb : b.ledger.IsInitial found)
    (hfound : found.Pairwise fun x y => x.version ≤ y.version)
    (hfinished : finished <+: notApplied b.ledger.versions target found) :
    b'.ledger.entries = b.ledger.entries ++ finished.map Migration.entry ∧
      b'.ledger.IsInitial found := by
  -- no version is recorded twice, so all that is finished are firsts
  have hnext : finished <+: (firsts found).drop b.ledger.records.length := by
    rw [← Migration.firsts_eq_self h.nodup_versions]
    exact (firsts_of_isPrefix hfinished).trans (hb.firsts_notApplied hfound target)
  have hsegment : b.ledger.entries ++ finished.map Migration.entry <+:
      (firsts found).map Migration.entry := by
    rw [hb.entries_eq, ← List.map_append]
    refine List.IsPrefix.map _ ?_
    conv_rhs => rw [← List.take_append_drop b.ledger.records.length (firsts found)]
    exact (List.prefix_append_right_inj _).mpr hnext
  have hasc : (b.ledger.entries ++ finished.map Migration.entry).Pairwise
      fun a b => a.1 < b.1 :=
    List.Pairwise.sublist hsegment.sublist
      (List.pairwise_map.mpr (Migration.pairwise_firsts hfound))
  have heq := Ledger.eq_of_perm_of_ascending b'.ledger.pairwise_entries hasc h.perm_entries
  refine ⟨heq, ?_⟩
  rw [Ledger.IsInitial, heq]
  exact hsegment

theorem Adds.versions_eq {finished : List Migration} {target : Option Version}
    (h : m.Adds folder s b finished b') (hb : b.ledger.IsInitial found)
    (hfound : found.Pairwise fun x y => x.version ≤ y.version)
    (hfinished : finished <+: notApplied b.ledger.versions target found) :
    b'.ledger.versions = b.ledger.versions ++ finished.map Migration.version := by
  have hentries := congrArg (List.map Prod.fst) (h.isInitial hb hfound hfinished).1
  rw [List.map_append, Ledger.map_fst_entries, Ledger.map_fst_entries, List.map_map] at hentries
  exact hentries

/-- **Taking back** from the end leaves an initial segment. -/
theorem Removes.isInitial {as : List Applied} {downs : List String}
    (h : m.Removes b as downs b') (hb : b.ledger.IsInitial found) :
    b'.ledger.IsInitial found := by
  have hinitial : b'.ledger.records <+: b.ledger.records := ⟨as.reverse, h.rows⟩
  exact (hinitial.map Applied.entry).trans hb

theorem Removes.reverse_versions {as : List Applied} {downs : List String}
    (h : m.Removes b as downs b') :
    b.ledger.versions.reverse = as.map Applied.version ++ b'.ledger.versions.reverse := by
  have hrows := congrArg (List.map Applied.version) h.rows
  rw [List.map_append, List.map_reverse] at hrows
  have hreverse := congrArg List.reverse hrows
  rw [List.reverse_append, List.reverse_reverse] at hreverse
  exact hreverse.symm

end Migrator

end SchemaKit
