import Mathlib.Data.List.Forall2

/-!
# Progress along a list

`Progress.along` takes steps that may fail along a list and stops at the first that does.  What it
has finished is a prefix of the list (`finished_isPrefix`), the steps along that prefix succeed and
lead to the state it ends in (`foldlM_finished`), and where it stops is the very next element
(`split_of_stop`, `take_of_stop`).
-/

namespace SchemaKit

/-- How far steps that may fail have come: what they were taken for, the state they have led to, and
the element and the reason of the step that failed, if one did. -/
structure Progress (α β ε : Type) where
  finished : List α
  state : β
  stop : Option (α × ε)

namespace Progress

variable {α β ε : Type} (step : β → α → Except ε β)

/-- Takes a step for each element in order, up to the first step that fails. -/
def along (b : β) : List α → Progress α β ε
  | [] => ⟨[], b, none⟩
  | x :: rest =>
    match step b x with
    | .error e => ⟨[], b, some (x, e)⟩
    | .ok b => let p := along b rest; ⟨x :: p.finished, p.state, p.stop⟩

variable {step} {b b' : β} {x : α} {e : ε}

@[simp] theorem along_nil : along step b [] = ⟨[], b, none⟩ := rfl

theorem along_cons_error {rest : List α} (h : step b x = .error e) :
    along step b (x :: rest) = ⟨[], b, some (x, e)⟩ := by
  simp only [along, h]

theorem along_cons_ok {rest : List α} (h : step b x = .ok b') :
    along step b (x :: rest) =
      ⟨x :: (along step b' rest).finished, (along step b' rest).state,
        (along step b' rest).stop⟩ := by
  simp only [along, h]

theorem finished_isPrefix (b : β) (l : List α) : (along step b l).finished <+: l := by
  induction l generalizing b with
  | nil => exact List.prefix_refl _
  | cons x rest ih =>
    cases h : step b x with
    | error e =>
      rw [along_cons_error h]
      exact List.nil_prefix
    | ok b' =>
      rw [along_cons_ok h]
      exact List.cons_prefix_cons.mpr ⟨rfl, ih b'⟩

/-- The steps for what is finished lead to the state at the end. -/
theorem foldlM_finished (b : β) (l : List α) :
    (along step b l).finished.foldlM step b = .ok (along step b l).state := by
  induction l generalizing b with
  | nil => rfl
  | cons x rest ih =>
    cases h : step b x with
    | error e =>
      rw [along_cons_error h]
      rfl
    | ok b' =>
      rw [along_cons_ok h, List.foldlM_cons, h]
      exact ih b'

/-- If no step has failed, all is finished. -/
theorem finished_of_not_stopped {l : List α} (h : (along step b l).stop = none) :
    (along step b l).finished = l := by
  induction l generalizing b with
  | nil => rfl
  | cons x rest ih =>
    cases hx : step b x with
    | error e =>
      rw [along_cons_error hx] at h
      cases h
    | ok b' =>
      rw [along_cons_ok hx] at h ⊢
      exact congrArg (x :: ·) (ih h)

/-- Where it does not depend on the state which steps fail, none has failed if none of them does. -/
theorem isNone_stop {l : List α} {ok : α → Bool} (h : ∀ b, ∀ x ∈ l, (step b x).isOk = ok x) :
    (along step b l).stop.isNone = l.all ok := by
  induction l generalizing b with
  | nil => rfl
  | cons x rest ih =>
    obtain ⟨hx, hrest⟩ : (step b x).isOk = ok x ∧ ∀ b, ∀ y ∈ rest, (step b y).isOk = ok y :=
      ⟨h b x List.mem_cons_self, fun b y hy => h b y (List.mem_cons_of_mem x hy)⟩
    rw [List.all_cons, ← hx]
    cases hs : step b x with
    | error e =>
      rw [along_cons_error hs]
      rfl
    | ok b' =>
      rw [along_cons_ok hs]
      exact ih hrest

/-- A step that has failed is the next one, and fails in the state at the end. -/
theorem split_of_stop {l : List α} (h : (along step b l).stop = some (x, e)) :
    ∃ rest, l = (along step b l).finished ++ x :: rest ∧
      step (along step b l).state x = .error e := by
  induction l generalizing b with
  | nil => cases h
  | cons y rest ih =>
    cases hy : step b y with
    | error e' =>
      rw [along_cons_error hy] at h ⊢
      cases h
      exact ⟨rest, rfl, hy⟩
    | ok b' =>
      rw [along_cons_ok hy] at h ⊢
      obtain ⟨rest', hl, he⟩ := ih h
      exact ⟨rest', congrArg (y :: ·) hl, he⟩

/-- The same by position: what is finished is all before the element that fails. -/
theorem take_of_stop {l : List α} (h : (along step b l).stop = some (x, e)) :
    ∃ k, ∃ hk : k < l.length, (along step b l).finished = l.take k ∧ l[k] = x ∧
      step (along step b l).state x = .error e := by
  obtain ⟨rest, hl, he⟩ := split_of_stop h
  set p := along step b l with hp
  have hk : p.finished.length < l.length := by
    rw [hl, List.length_append, List.length_cons]
    omega
  refine ⟨p.finished.length, hk, ?_, List.getElem_of_append hl rfl, he⟩
  conv_rhs => rw [hl]
  exact List.take_left.symm

end Progress

/-! ## Looking everything up first -/

section LookUp

variable {α β ε : Type} {f : α → Except ε β}

/-- What is found at the end has been found through something found first. -/
theorem exists_of_bind {γ : Type} {r : Except ε α} {g : α → Except ε γ} {c : γ}
    (h : (r >>= g) = .ok c) : ∃ a, r = .ok a ∧ g a = .ok c := by
  cases r with
  | error e => cases h
  | ok a => exact ⟨a, rfl, h⟩

/-- If all of a list can be looked up, each element gives what stands in its place. -/
theorem forall₂_of_mapM {l : List α} {ys : List β} (h : l.mapM f = .ok ys) :
    List.Forall₂ (fun x y => f x = .ok y) l ys := by
  induction l generalizing ys with
  | nil =>
    obtain rfl : [] = ys := Except.ok.inj h
    exact List.Forall₂.nil
  | cons x l ih =>
    rw [List.mapM_cons] at h
    cases hx : f x with
    | error e =>
      rw [hx] at h
      cases h
    | ok y =>
      cases hl : l.mapM f with
      | error e =>
        rw [hx, hl] at h
        cases h
      | ok ys' =>
        rw [hx, hl] at h
        obtain rfl : y :: ys' = ys := Except.ok.inj h
        exact List.Forall₂.cons hx (ih hl)

/-- And all of it can be looked up if each element gives what stands in its place. -/
theorem mapM_eq_ok_iff {l : List α} {ys : List β} :
    l.mapM f = .ok ys ↔ List.Forall₂ (fun x y => f x = .ok y) l ys := by
  refine ⟨forall₂_of_mapM, fun h => ?_⟩
  induction h with
  | nil => rfl
  | cons hx _ ih =>
    rw [List.mapM_cons, hx, ih]
    rfl

/-- If each element of a list can be looked up, all of it can. -/
theorem mapM_eq_ok {g : α → β} {l : List α} (h : ∀ x ∈ l, f x = .ok (g x)) :
    l.mapM f = .ok (l.map g) := by
  induction l with
  | nil => rfl
  | cons x l ih =>
    rw [List.forall_mem_cons] at h
    rw [List.mapM_cons, h.1, ih h.2]
    rfl

/-- If not all of a list can be looked up, the reason is that of the first element that cannot. -/
theorem split_of_mapM_error {l : List α} {e : ε} (h : l.mapM f = .error e) :
    ∃ before x after, l = before ++ x :: after ∧ (∀ y ∈ before, ∃ z, f y = .ok z) ∧
      f x = .error e := by
  induction l with
  | nil => cases h
  | cons x l ih =>
    rw [List.mapM_cons] at h
    cases hx : f x with
    | error e' =>
      rw [hx] at h
      obtain rfl : e' = e := Except.error.inj h
      exact ⟨[], x, l, rfl, by simp, hx⟩
    | ok y =>
      cases hl : l.mapM f with
      | error e' =>
        rw [hx, hl] at h
        obtain rfl : e' = e := Except.error.inj h
        obtain ⟨before, x', after, rfl, hbefore, hx'⟩ := ih hl
        refine ⟨x :: before, x', after, rfl, ?_, hx'⟩
        intro z hz
        rcases List.mem_cons.mp hz with rfl | hz
        · exact ⟨y, hx⟩
        · exact hbefore z hz
      | ok ys =>
        rw [hx, hl] at h
        cases h

/-- Keeping a part of what has been looked up. -/
theorem mapM_map_except {γ : Type} (g : β → γ) (l : List α) :
    (l.mapM fun x => (f x).map g) = (l.mapM f).map (List.map g) := by
  induction l with
  | nil => rfl
  | cons x l ih =>
    rw [List.mapM_cons, List.mapM_cons, ih]
    cases f x with
    | error e => rfl
    | ok y => cases l.mapM f <;> rfl

end LookUp

end SchemaKit
