import Mathlib.Data.List.Forall2
import SchemaKit.Proofs.Ledger
import SchemaKit.Proofs.Transaction

/-!
# Up to moments

A record is stamped with the moment at which it is made, so what is done at other moments is the same
only up to these stamps.  `Tracked.Alike r` says that two tracking tables agree but for stamps, which
are related by `r`.  An operation at related moments treats tables that are alike alike
(`Tracked.Alike.apply`).  Hence the changes that a transaction has noted can be made again at any
moment on the table it started from (`Transaction.Repeats`).
-/

namespace SchemaKit

variable {r : Timestamp → Timestamp → Prop}

/-! ## Records, ledgers and tables -/

/-- Records of the same version and name, with related stamps. -/
structure Applied.Alike (r : Timestamp → Timestamp → Prop) (a b : Applied) : Prop where
  version : a.version = b.version
  name : a.name = b.name
  appliedAt : r a.appliedAt b.appliedAt

/-- Ledgers with the same records in the same places, but for their stamps. -/
def Ledger.Alike (r : Timestamp → Timestamp → Prop) (l l' : Ledger) : Prop :=
  List.Forall₂ (Applied.Alike r) l.records l'.records

/-- Tables that are both there or both not, with the same records but for their stamps. -/
structure Tracked.Alike (r : Timestamp → Timestamp → Prop) (s s' : Tracked) : Prop where
  created : s.created = s'.created
  ledger : s.ledger.Alike r s'.ledger

/-- Answers that are the same, or list the same records but for their stamps. -/
inductive AnswersAlike (r : Timestamp → Timestamp → Prop) :
    Except StoreError (List Row) → Except StoreError (List Row) → Prop
  | same (x : Except StoreError (List Row)) : AnswersAlike r x x
  | records {as bs : List Applied} (h : List.Forall₂ (Applied.Alike r) as bs) :
    AnswersAlike r (.ok (as.map Applied.toRow)) (.ok (bs.map Applied.toRow))

namespace Ledger.Alike

variable {l l' : Ledger} {a a' : Applied}

theorem refl (hr : ∀ moment, r moment moment) (l : Ledger) : l.Alike r l :=
  List.forall₂_same.mpr fun a _ => ⟨rfl, rfl, hr a.appliedAt⟩

theorem entries (h : l.Alike r l') : l.entries = l'.entries := by
  have hentries : List.Forall₂ (· = ·) l.entries l'.entries :=
    List.forall₂_map_left_iff.mpr (List.forall₂_map_right_iff.mpr
      (h.imp fun _ _ hab => Prod.ext hab.version hab.name))
  rwa [List.forall₂_eq_eq_eq] at hentries

theorem contains (h : l.Alike r l') (version : Int64) :
    l.contains version = l'.contains version := by
  have hversions : l.versions = l'.versions := by
    rw [← l.map_fst_entries, h.entries, l'.map_fst_entries]
  rw [Bool.eq_iff_iff, Ledger.contains_iff, Ledger.contains_iff, hversions]

theorem putRecord {rs rs' : List Applied} (h : List.Forall₂ (Applied.Alike r) rs rs')
    (ha : a.Alike r a') :
    List.Forall₂ (Applied.Alike r) (Ledger.putRecord a rs) (Ledger.putRecord a' rs') := by
  induction h with
  | nil => exact .cons ha .nil
  | cons hb hrest ih =>
    unfold Ledger.putRecord
    rw [ha.version, hb.version]
    split
    · exact .cons ha (.cons hb hrest)
    · split
      · exact .cons ha hrest
      · exact .cons hb ih

theorem put (h : l.Alike r l') (ha : a.Alike r a') : (l.put a).Alike r (l'.put a') :=
  putRecord h ha

theorem erase (h : l.Alike r l') (version : Int64) :
    (l.erase version).Alike r (l'.erase version) := by
  refine List.rel_filter ?_ h
  intro a b hab
  simp only [hab.version]

end Ledger.Alike

namespace Tracked.Alike

variable {s s' : Tracked} {t : TrackingTable} {moment moment' : Timestamp}

theorem refl (hr : ∀ moment, r moment moment) (s : Tracked) : s.Alike r s :=
  ⟨rfl, .refl hr s.ledger⟩

/-- **One operation** at related moments: it is refused of both tables for the same reason, or done to
both, and then its answers are alike and so are the tables after it. -/
theorem apply (h : s.Alike r s') (hr : r moment moment') (op : TrackingOp) :
    (∃ e, s.apply t moment op = .error e ∧ s'.apply t moment' op = .error e) ∨
    ∃ rows rows' u u', s.apply t moment op = .ok (rows, u) ∧
      s'.apply t moment' op = .ok (rows', u') ∧
      AnswersAlike r (.ok rows) (.ok rows') ∧ u.Alike r u' := by
  obtain ⟨hcreated, hledger⟩ := h
  cases op with
  | create => exact .inr ⟨_, _, _, _, rfl, rfl, .same _, rfl, hledger⟩
  | select =>
    simp only [Tracked.apply, hcreated]
    cases s'.created with
    | false => exact .inl ⟨_, rfl, rfl⟩
    | true => exact .inr ⟨_, _, _, _, rfl, rfl, .records hledger, hcreated, hledger⟩
  | record version name =>
    simp only [Tracked.apply, hcreated, hledger.contains version]
    cases s'.created with
    | false => exact .inl ⟨_, rfl, rfl⟩
    | true =>
      cases s'.ledger.contains version with
      | true => exact .inl ⟨_, rfl, rfl⟩
      | false => exact .inr ⟨_, _, _, _, rfl, rfl, .same _, rfl, hledger.put ⟨rfl, rfl, hr⟩⟩
  | remove version =>
    simp only [Tracked.apply, hcreated]
    cases s'.created with
    | false => exact .inl ⟨_, rfl, rfl⟩
    | true => exact .inr ⟨_, _, _, _, rfl, rfl, .same _, rfl, hledger.erase version⟩

end Tracked.Alike

/-! ## Making changes again -/

namespace Transaction

def AnyMoment (_ _ : Timestamp) : Prop := True

/-- The changes a transaction has noted can be made again at any moment on a given table, and lead
to the table that the transaction sees, but for the stamps. -/
def Repeats (tx : Transaction) (base : Tracked) : Prop :=
  ∀ moment, ∃ s, base.applyAll tx.table moment tx.ops = .ok s ∧ s.Alike AnyMoment tx.shadow

variable {tx : Transaction} {base : Tracked}

theorem repeats_start (t : TrackingTable) (s : Store) : (start t s).Repeats s.tracked :=
  fun _ => ⟨s.tracked, rfl, .refl (fun _ => trivial) _⟩

/-- **One statement** of the transaction, at whatever moment it is run. -/
theorem Repeats.execute (h : tx.Repeats base) (s : Store) (q : Statement) :
    (tx.execute s q).2.1.Repeats base := by
  rcases tx.execute_cases s q with ⟨e, hr⟩ | ⟨-, hr⟩ | ⟨op, rows, shadow, -, ha, hr⟩
  · rw [hr]
    exact h
  · rw [hr]
    exact h
  · rw [hr]
    intro moment
    obtain ⟨b, hb, hlike⟩ := h moment
    by_cases hs : op = .select
    · subst hs
      rw [Tracked.apply_select ha]
      exact ⟨b, hb, hlike⟩
    · -- what the transaction has done to its own table can be done to the one that is alike
      have hmoments : AnyMoment moment s.clock := trivial
      rcases hlike.apply (t := tx.table) hmoments op with
        ⟨e, -, he⟩ | ⟨rows', rows'', u, u', hu, hu', -, halike⟩
      · rw [ha] at he
        cases he
      · rw [ha] at hu'
        obtain rfl : shadow = u' := congrArg Prod.snd (Except.ok.inj hu')
        refine ⟨u, ?_, halike⟩
        simp only [if_neg hs]
        rw [Tracked.applyAll_concat, hb]
        simp only [hu]
        rfl

end Transaction

end SchemaKit
