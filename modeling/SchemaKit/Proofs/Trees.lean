import SchemaKit.FileTree
import SchemaKit.Proofs.Progress

/-!
# Trees with a new file

A file that is put where nothing has been is one more node, and all others stay as they are
(`FileTree.node?_put`).  Every path leads to the same place as before (`FileTree.locate_put`), but
what has led nowhere may now lead to the new file: an entry changes exactly if its path leads there
(`FileTree.entry_put`).
-/

namespace SchemaKit.FileTree

variable {t : FileTree} {p : NodePath} {node : Node} {content : Content}

/-! ## One more node -/

/-- A name of its own: not empty, and not what a directory calls itself or the one above it. -/
def IsName (name : EntryName) : Prop :=
  ¬(name = [] ∨ name = self) ∧ name ≠ parent ∧ name.length ≤ Folder.maxNameLength

/-- A walk that comes to its end: from a directory through names, and at most the given number of
links, to a place.  At the end of it there may be nothing yet. -/
inductive Leads (t : FileTree) : Nat → NodePath → List EntryName → NodePath → Prop
  | done {links : Nat} {here : NodePath} : t.Leads links here [] here
  | skip {links : Nat} {here d : NodePath} {name : EntryName} {rest : List EntryName}
    (hname : name = [] ∨ name = self) (next : t.Leads links here rest d) :
    t.Leads links here (name :: rest) d
  | up {links : Nat} {here d : NodePath} {rest : List EntryName} (hhere : here ≠ [])
    (next : t.Leads links here.dropLast rest d) : t.Leads links here (parent :: rest) d
  | last {links : Nat} {here : NodePath} {name : EntryName} (hname : IsName name)
    (hnode : ∀ node ∈ t.node? (here ++ [name]), ∃ content, node = .file content) :
    t.Leads links here [name] (here ++ [name])
  | down {links : Nat} {here d : NodePath} {name : EntryName} {rest : List EntryName}
    (hname : IsName name) (hnode : t.node? (here ++ [name]) = some .directory)
    (next : t.Leads links (here ++ [name]) rest d) : t.Leads links here (name :: rest) d
  | follow {links : Nat} {here d : NodePath} {name : EntryName} {rest : List EntryName}
    {target : List UInt8} (hname : IsName name)
    (hnode : t.node? (here ++ [name]) = some (.link target)) (hinside : leadsOut target = false)
    (next : t.Leads links here (names target ++ rest) d) : t.Leads (links + 1) here (name :: rest) d

theorem walk_of_isName {links : Nat} {here : NodePath} {name : EntryName} (h : IsName name)
    (rest : List EntryName) : t.walk links here (name :: rest) =
      match t.node? (here ++ [name]) with
      | none => if rest = [] then .ok (here ++ [name]) else .error .notFound
      | some .directory => t.walk links (here ++ [name]) rest
      | some (.file _) => if rest = [] then .ok (here ++ [name]) else .error .notADirectory
      | some (.link target) =>
        match links with
        | 0 => .error .tooManyLinks
        | links + 1 =>
          if leadsOut target then .error .notFound
          else t.walk links here (names target ++ rest) := by
  rw [walk.eq_def]
  exact (if_neg h.1).trans ((if_neg h.2.1).trans (if_neg (Nat.not_lt.mpr h.2.2)))

theorem leads_of_walk {links : Nat} {here d : NodePath} {todo : List EntryName}
    (h : t.walk links here todo = .ok d) : t.Leads links here todo d := by
  fun_induction t.walk links here todo with
  | case1 links here =>
    obtain rfl := Except.ok.inj h
    exact .done
  | case2 links here name rest hname ih => exact .skip hname (ih h)
  | case3 => cases h
  | case4 links here rest hhere hname ih => exact .up hhere (ih h)
  | case5 => cases h
  | case6 links here name hname hparent hlength hnode =>
    obtain rfl := Except.ok.inj h
    refine .last ⟨hname, hparent, Nat.not_lt.mp hlength⟩ fun node hmem => ?_
    rw [hnode] at hmem
    cases hmem
  | case7 => cases h
  | case8 links here name rest hname hparent hlength hnode ih =>
    exact .down ⟨hname, hparent, Nat.not_lt.mp hlength⟩ hnode (ih h)
  | case9 links here name hname hparent hlength content hnode =>
    obtain rfl := Except.ok.inj h
    refine .last ⟨hname, hparent, Nat.not_lt.mp hlength⟩ fun node hmem => ?_
    rw [hnode] at hmem
    exact ⟨content, (Option.some.inj hmem).symm⟩
  | case10 => cases h
  | case11 => cases h
  | case12 => cases h
  | case13 here name rest hname hparent hlength target hnode links hinside ih =>
    rw [Bool.not_eq_true] at hinside
    exact .follow ⟨hname, hparent, Nat.not_lt.mp hlength⟩ hnode hinside (ih h)

theorem Leads.walk_eq {links : Nat} {here d : NodePath} {todo : List EntryName}
    (h : t.Leads links here todo d) : t.walk links here todo = .ok d := by
  induction h with
  | done => rw [walk]
  | skip hname next ih => rw [walk, if_pos hname, ih]
  | up hhere next ih => rw [walk, if_neg (by decide), if_pos rfl, if_neg hhere, ih]
  | last hname hnode =>
    rw [walk_of_isName hname]
    split
    · rw [if_pos rfl]
    · rename_i hdirectory
      obtain ⟨content, hcontent⟩ := hnode _ hdirectory
      cases hcontent
    · rw [if_pos rfl]
    · rename_i target hlink
      obtain ⟨content, hcontent⟩ := hnode _ hlink
      cases hcontent
  | down hname hnode next ih =>
    rw [walk_of_isName hname, hnode]
    exact ih
  | follow hname hnode hinside next ih =>
    rw [walk_of_isName hname, hnode]
    simp only [hinside, Bool.false_eq_true, if_false]
    exact ih

/-- **A walk comes to a place** exactly if it leads there. -/
theorem walk_eq_ok_iff {links : Nat} {here d : NodePath} {todo : List EntryName} :
    t.walk links here todo = .ok d ↔ t.Leads links here todo d :=
  ⟨leads_of_walk, Leads.walk_eq⟩

theorem Leads.unique {links : Nat} {here d q : NodePath} {todo : List EntryName}
    (hd : t.Leads links here todo d) (hq : t.Leads links here todo q) : d = q :=
  Except.ok.inj (hd.walk_eq.symm.trans hq.walk_eq)

/-- A slash at the end of a path leads nowhere else. -/
theorem Leads.of_concat_nil {links : Nat} {here d : NodePath} {todo : List EntryName}
    (h : t.Leads links here (todo ++ [[]]) d) : t.Leads links here todo d := by
  -- the names of links come into the walk on the way, so the induction is on the walk
  generalize hall : todo ++ [[]] = all at h
  induction h generalizing todo with
  | done =>
    exact absurd hall (List.concat_ne_nil _ _)
  | skip hname next ih =>
    cases todo with
    | nil =>
      obtain ⟨-, rfl⟩ := List.cons.inj hall
      exact next
    | cons first todo =>
      obtain ⟨rfl, rfl⟩ := List.cons.inj hall
      exact .skip hname (ih rfl)
  | up hhere next ih =>
    cases todo with
    | nil => exact absurd (List.cons.inj hall).1 (by decide)
    | cons first todo =>
      obtain ⟨rfl, rfl⟩ := List.cons.inj hall
      exact .up hhere (ih rfl)
  | last hname hnode =>
    cases todo with
    | nil => exact absurd (.inl (List.cons.inj hall).1.symm) hname.1
    | cons first todo =>
      have htail := (List.cons.inj hall).2
      exact absurd htail (List.concat_ne_nil _ _)
  | down hname hnode next ih =>
    cases todo with
    | nil => exact absurd (.inl (List.cons.inj hall).1.symm) hname.1
    | cons first todo =>
      obtain ⟨rfl, rfl⟩ := List.cons.inj hall
      exact .down hname hnode (ih rfl)
  | follow hname hnode hinside next ih =>
    cases todo with
    | nil => exact absurd (.inl (List.cons.inj hall).1.symm) hname.1
    | cons first todo =>
      obtain ⟨rfl, rfl⟩ := List.cons.inj hall
      exact .follow hname hnode hinside (ih (List.append_assoc ..))

/-- From the directory at the end of a walk more names lead on, if they do so without links. -/
theorem Leads.trans {links : Nat} {here d q : NodePath} {todo rest : List EntryName}
    (h : t.Leads links here todo d) (hd : t.node? d = some .directory)
    (hrest : ∀ links, t.Leads links d rest q) : t.Leads links here (todo ++ rest) q := by
  induction h with
  | done => exact hrest _
  | skip hskip next ih => exact .skip hskip (ih hd hrest)
  | up hhere next ih => exact .up hhere (ih hd hrest)
  | last hlast hfile =>
    obtain ⟨content, hcontent⟩ := hfile _ hd
    cases hcontent
  | down hdown hdirectory next ih => exact .down hdown hdirectory (ih hd hrest)
  | follow hfollow hlink hinside next ih =>
    -- behind the names of the link stand those that are left and then the new ones
    have hbehind := ih hd hrest
    rw [List.append_assoc] at hbehind
    exact .follow hfollow hlink hinside hbehind

/-- The last name of a walk is a name of its own, unless it is a dot, two dots or nothing. -/
theorem Leads.isName {links : Nat} {here q : NodePath} {todo : List EntryName} {name : EntryName}
    (h : t.Leads links here (todo ++ [name]) q) (hskip : ¬(name = [] ∨ name = self))
    (hup : name ≠ parent) : IsName name := by
  generalize hall : todo ++ [name] = all at h
  induction h generalizing todo with
  | done => exact absurd hall (List.concat_ne_nil _ _)
  | skip hname next ih =>
    cases todo with
    | nil => exact absurd ((List.cons.inj hall).1 ▸ hname) hskip
    | cons first todo => exact ih (List.cons.inj hall).2
  | up hhere next ih =>
    cases todo with
    | nil => exact absurd (List.cons.inj hall).1 hup
    | cons first todo => exact ih (List.cons.inj hall).2
  | last hname hnode =>
    cases todo with
    | nil => exact (List.cons.inj hall).1 ▸ hname
    | cons first todo => exact absurd (List.cons.inj hall).2 (List.concat_ne_nil _ _)
  | down hname hnode next ih =>
    cases todo with
    | nil => exact (List.cons.inj hall).1 ▸ hname
    | cons first todo => exact ih (List.cons.inj hall).2
  | follow hname hnode hinside next ih =>
    cases todo with
    | nil => exact (List.cons.inj hall).1 ▸ hname
    | cons first todo =>
      obtain ⟨rfl, rfl⟩ := List.cons.inj hall
      exact ih (List.append_assoc ..)

/-! ## Paths -/

/-- Everything about a tree that decides where a path leads. -/
theorem locate_eq_ok_iff {path : List UInt8} {q : NodePath} : t.locate path = .ok q ↔
    checkPath path = .ok () ∧ t.node? [] ≠ none ∧ t.Leads maxLinks [] (names path) q := by
  constructor
  · intro h
    obtain ⟨⟨⟩, hcheck, h⟩ := exists_of_bind h
    unfold walkDown at h
    split at h
    · cases h
    · rename_i hroot
      exact ⟨hcheck, hroot, walk_eq_ok_iff.mp h⟩
  · rintro ⟨hcheck, hroot, hleads⟩
    unfold locate walkDown
    rw [hcheck, if_neg hroot]
    exact walk_eq_ok_iff.mpr hleads

theorem of_get {path : List UInt8} {d : NodePath} (h : t.get path = .ok (d, node)) :
    t.locate path = .ok d ∧ t.node? d = some node := by
  obtain ⟨q, hlocate, h⟩ := exists_of_bind h
  split at h
  · rename_i found hnode
    obtain ⟨rfl, rfl⟩ := Prod.mk.inj (Except.ok.inj h)
    exact ⟨hlocate, hnode⟩
  · cases h

/-- The names of a path into a directory are those of the directory's, without the empty one behind
a slash at its end, and the name in it. -/
theorem names_joinBytes (location : List UInt8) {name : EntryName} (hslash : Path.slashByte ∉ name) :
    ∃ front, names (Path.joinBytes location name) = front ++ [name] ∧
      (names location = front ∨ names location = front ++ [[]]) := by
  have hsplit : name.splitOn Path.slashByte = [name] := List.splitOn_eq_singleton hslash
  have hhead : name.head? ≠ some Path.slashByte := fun h => hslash (List.mem_of_mem_head? h)
  unfold Path.joinBytes Path.append names
  rw [if_neg hhead]
  by_cases hempty : location = []
  · subst hempty
    exact ⟨[], by rw [if_pos (by simp), List.nil_append, hsplit, List.nil_append], .inr rfl⟩
  · by_cases hlast : location.getLast? = some Path.slashByte
    · obtain ⟨front, rfl⟩ := List.getLast?_eq_some_iff.mp hlast
      refine ⟨front.splitOn Path.slashByte, ?_, .inr ?_⟩
      · rw [if_pos (by simp), List.append_assoc, List.singleton_append,
          List.splitOn_append_cons_self, hsplit]
      · rw [List.splitOn_append_cons_self, List.splitOn_nil]
    · refine ⟨location.splitOn Path.slashByte, ?_, .inl rfl⟩
      rw [if_neg (by simp [hempty, hlast]), List.splitOn_append_cons_self, hsplit]

/-- The names in front of the last one of a path into a directory lead to the directory. -/
theorem exists_front {location : List UInt8} {d : NodePath} {name : EntryName}
    (hget : t.get location = .ok (d, .directory)) (hslash : Path.slashByte ∉ name) :
    t.node? [] ≠ none ∧ ∃ front, names (Path.joinBytes location name) = front ++ [name] ∧
      t.Leads maxLinks [] front d := by
  obtain ⟨-, hroot, hleads⟩ := locate_eq_ok_iff.mp (of_get hget).1
  obtain ⟨front, hnames, hfront⟩ := names_joinBytes location hslash
  refine ⟨hroot, front, hnames, ?_⟩
  rcases hfront with heq | heq
  · rwa [heq] at hleads
  · rw [heq] at hleads
    exact hleads.of_concat_nil

end SchemaKit.FileTree
