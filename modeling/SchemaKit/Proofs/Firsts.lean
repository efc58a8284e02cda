import Mathlib.Data.List.Infix
import Mathlib.Data.List.Nodup
import SchemaKit.Migration.File

/-!
# The first file of each version

Files may share a version.  `Migration.firsts` keeps the first of each version; of a sorted list it
is strictly ascending.  Taking firsts goes along with everything that a migrator does to a list when
it selects by version (`firsts_filter`) or stops half-way (`firsts_of_isPrefix`).
-/

namespace SchemaKit

namespace Migration

/-- What a tracking table says of a migration: its version and its name. -/
def entry (x : Migration) : Int64 × String :=
  (x.version, x.name)

/-- The first migration of each version, in the order of the list. -/
def firsts (l : List Migration) : List Migration :=
  l.eraseDupsBy fun x y => decide (x.version = y.version)

variable {l l' : List Migration} {x y : Migration}

@[simp] theorem firsts_nil : firsts [] = [] := rfl

theorem firsts_cons (x : Migration) (l : List Migration) :
    firsts (x :: l) = x :: firsts (l.filter fun y => y.version ≠ x.version) := by
  unfold firsts
  rw [List.eraseDupsBy_cons]
  simp

/-- Induction along `firsts`: behind the head only other versions are left. -/
@[elab_as_elim]
theorem firsts_induction {motive : List Migration → Prop} (nil : motive [])
    (cons : ∀ x l, motive (l.filter fun y => y.version ≠ x.version) → motive (x :: l))
    (l : List Migration) : motive l := by
  induction h : l.length using Nat.strongRecOn generalizing l with
  | _ n ih =>
    cases l with
    | nil => exact nil
    | cons x l =>
      refine cons x l (ih _ ?_ _ rfl)
      have hle := List.length_filter_le (fun y => decide (y.version ≠ x.version)) l
      rw [List.length_cons] at h
      omega

theorem firsts_sublist (l : List Migration) : (firsts l).Sublist l := by
  induction l using firsts_induction with
  | nil => exact List.Sublist.slnil
  | cons x l ih =>
    rw [firsts_cons]
    exact (ih.trans List.filter_sublist).cons_cons x

/-- Selecting by version and taking firsts commute. -/
theorem firsts_filter (p : Int64 → Bool) (l : List Migration) :
    firsts (l.filter fun y => p y.version) = (firsts l).filter fun y => p y.version := by
  induction l using firsts_induction with
  | nil => rfl
  | cons x l ih =>
    rw [List.filter_comm] at ih
    by_cases hx : p x.version = true
    · rw [List.filter_cons_of_pos (by exact hx), firsts_cons, firsts_cons,
        List.filter_cons_of_pos (by exact hx), ih]
    · rw [List.filter_cons_of_neg (by exact hx), firsts_cons,
        List.filter_cons_of_neg (by exact hx), ← ih, List.filter_filter]
      refine congrArg firsts (List.filter_congr fun y _ => ?_)
      -- what is selected has another version than the head, which is not
      by_cases hy : y.version = x.version
      · simp [hy, hx]
      · simp [hy]

theorem firsts_of_isPrefix (h : l <+: l') : firsts l <+: firsts l' := by
  induction l using firsts_induction generalizing l' with
  | nil => exact List.nil_prefix
  | cons x l ih =>
    obtain ⟨rest, rfl⟩ := h
    rw [List.cons_append, firsts_cons, firsts_cons]
    exact List.cons_prefix_cons.mpr ⟨rfl, ih ((List.prefix_append l rest).filter _)⟩

theorem firsts_eq_self (h : (l.map version).Nodup) : firsts l = l := by
  induction l with
  | nil => rfl
  | cons x l ih =>
    obtain ⟨hx, hl⟩ := List.nodup_cons.mp h
    have hother : l.filter (fun y => decide (y.version ≠ x.version)) = l :=
      List.filter_eq_self.mpr fun y hy =>
        decide_eq_true fun e => hx (e ▸ List.mem_map_of_mem hy)
    rw [firsts_cons, hother, ih hl]

/-- The firsts are the files that a search by version finds. -/
theorem mem_firsts_iff :
    x ∈ firsts l ↔ (l.find? fun y => y.version = x.version) = some x := by
  induction l using firsts_induction with
  | nil => simp
  | cons a l ih =>
    rw [firsts_cons, List.mem_cons]
    by_cases ha : a.version = x.version
    · rw [List.find?_cons_of_pos (by exact decide_eq_true ha), Option.some_inj]
      refine ⟨?_, fun h => .inl h.symm⟩
      rintro (rfl | hx)
      · rfl
      · have hmem := List.mem_filter.mp ((firsts_sublist _).subset hx)
        exact absurd ha.symm (of_decide_eq_true hmem.2)
    · have hne : x ≠ a := fun e => ha (e ▸ rfl)
      rw [List.find?_cons_of_neg (by simpa using ha), or_iff_right hne, ih, List.find?_filter]
      refine Eq.congr_left (congrArg (List.find? · l) (funext fun y => ?_))
      by_cases hy : y.version = x.version
      · simp [hy, Ne.symm ha]
      · simp [hy]

theorem exists_mem_firsts (h : x ∈ l) : ∃ y ∈ firsts l, y.version = x.version := by
  obtain ⟨y, hy⟩ := Option.isSome_iff_exists.mp
    (List.find?_isSome (p := fun y => decide (y.version = x.version)) |>.mpr
      ⟨x, h, decide_eq_true rfl⟩)
  have hv : y.version = x.version := by simpa using List.find?_some hy
  refine ⟨y, mem_firsts_iff.mpr ?_, hv⟩
  rw [hv]
  exact hy

/-- The firsts of a sorted list ascend strictly. -/
theorem pairwise_firsts (h : l.Pairwise fun x y => x.version ≤ y.version) :
    (firsts l).Pairwise fun x y => x.version < y.version := by
  induction l using firsts_induction with
  | nil => exact List.Pairwise.nil
  | cons x l ih =>
    obtain ⟨hx, hl⟩ := List.pairwise_cons.mp h
    rw [firsts_cons]
    refine List.pairwise_cons.mpr ⟨fun y hy => ?_, ih (hl.filter _)⟩
    obtain ⟨hmem, hne⟩ := List.mem_filter.mp ((firsts_sublist _).subset hy)
    have hne : y.version ≠ x.version := of_decide_eq_true hne
    exact Int64.lt_of_le_of_ne (hx y hmem) hne.symm

/-! ## Selecting from a list in strictly ascending order -/

/-- Dropping by version what comes first drops it by place. -/
theorem filter_not_taken (h : l.Pairwise fun x y => x.version < y.version) (k : Nat) :
    (l.filter fun x => !((l.take k).map version).contains x.version) = l.drop k := by
  obtain ⟨-, -, hlt⟩ := List.pairwise_append.mp ((List.take_append_drop k l).symm ▸ h)
  have htaken : (l.take k).filter
      (fun x => !((l.take k).map version).contains x.version) = [] := by
    refine List.filter_eq_nil_iff.mpr fun x hx => ?_
    have hmem : x.version ∈ (l.take k).map version := List.mem_map_of_mem hx
    rw [List.contains_eq_mem, decide_eq_true hmem]
    exact Bool.false_ne_true
  have hleft : (l.drop k).filter
      (fun x => !((l.take k).map version).contains x.version) = l.drop k := by
    refine List.filter_eq_self.mpr fun y hy => ?_
    rw [Bool.not_eq_true', List.contains_eq_mem, decide_eq_false_iff_not, List.mem_map]
    rintro ⟨x, hx, e⟩
    exact Int64.lt_irrefl (e ▸ hlt x hx y hy)
  calc l.filter (fun x => !((l.take k).map version).contains x.version)
      = (l.take k ++ l.drop k).filter
          (fun x => !((l.take k).map version).contains x.version) := by
        rw [List.take_append_drop]
    _ = l.drop k := by rw [List.filter_append, htaken, hleft, List.nil_append]

/-- What is not beyond a bound comes first. -/
theorem filter_isPrefix (h : l.Pairwise fun x y => x.version < y.version) {p : Int64 → Bool}
    (hp : ∀ v w, v < w → p w = true → p v = true) :
    (l.filter fun x => p x.version) <+: l := by
  induction l with
  | nil => exact List.prefix_refl _
  | cons x l ih =>
    obtain ⟨hx, hl⟩ := List.pairwise_cons.mp h
    by_cases hpx : p x.version = true
    · rw [List.filter_cons_of_pos (by exact hpx)]
      exact List.cons_prefix_cons.mpr ⟨rfl, ih hl⟩
    · have hnone : (x :: l).filter (fun y => p y.version) = [] := by
        refine List.filter_eq_nil_iff.mpr fun y hy => ?_
        rcases List.mem_cons.mp hy with rfl | hy
        · exact hpx
        · exact fun hpy => hpx (hp _ _ (hx y hy) hpy)
      rw [hnone]
      exact List.nil_prefix

end Migration

end SchemaKit
