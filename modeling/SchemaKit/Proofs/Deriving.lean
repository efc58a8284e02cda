import Mathlib.Data.List.ReduceOption
import SchemaKit.Proofs.Records

/-!
# Deriving record types

What the attributes of fields have to look like, and what comes of them.  An item of a `row` attribute
is written in one of two ways (`ColumnItem.IsWritten`), items stand between commas
(`ColumnItem.AreWritten`), and a record type is derived exactly if all items of all fields are written
so and a field is left.  What is read of the items one by one (`Field.readings`) tells which of them
cannot be read first, and with this error the derivation ends (`derive_follows_attributes`).
-/

namespace SchemaKit

open Source

/-! ## First errors -/

section FirstErrors

variable {α β γ ε : Type}

def errorOf? : Except ε α → Option ε
  | .error e => some e
  | .ok _ => none

def firstError? (rs : List (Except ε α)) : Option ε :=
  rs.findSome? errorOf?

theorem errorOf?_map (f : α → β) (r : Except ε α) :
    errorOf? (r >>= fun a => pure (f a)) = errorOf? r := by
  cases r <;> rfl

theorem errorOf?_bind (r : Except ε α) (f : α → Except ε β) {e? : Option ε}
    (h : ∀ a, errorOf? (f a) = e?) : errorOf? (r >>= f) = (errorOf? r).or e? := by
  cases r with
  | error e => rfl
  | ok a => exact (h a).trans (Option.none_or).symm

theorem firstError?_map_mapError {ε' : Type} (f : ε → ε') (rs : List (Except ε α)) :
    firstError? (rs.map (·.mapError f)) = (firstError? rs).map f := by
  induction rs with
  | nil => rfl
  | cons r rs ih =>
    cases r with
    | error e => rfl
    | ok a => exact ih

theorem errorOf?_eq_none_iff {r : Except ε α} : errorOf? r = none ↔ ∃ a, r = .ok a := by
  cases r <;> simp [errorOf?]

theorem errorOf?_eq_some_iff {r : Except ε α} {e : ε} : errorOf? r = some e ↔ r = .error e := by
  cases r <;> simp [errorOf?]

theorem mem_of_firstError? {rs : List (Except ε α)} {e : ε} (h : firstError? rs = some e) :
    .error e ∈ rs := by
  obtain ⟨r, hr, he⟩ := List.exists_of_findSome?_eq_some h
  exact errorOf?_eq_some_iff.mp he ▸ hr

/-- A list is looked up until the first element that cannot be. -/
theorem errorOf?_mapM (f : α → Except ε β) (l : List α) :
    errorOf? (l.mapM f) = l.findSome? fun x => errorOf? (f x) := by
  induction l with
  | nil => rfl
  | cons x l ih =>
    rw [List.mapM_cons, List.findSome?_cons,
      errorOf?_bind _ _ fun y => (errorOf?_map (y :: ·) (l.mapM f)).trans ih]
    cases f x <;> rfl

/-- The same where several things are read of each element. -/
theorem errorOf?_mapM_eq_firstError? {f : α → Except ε β} {g : α → List (Except ε γ)}
    (h : ∀ x, errorOf? (f x) = firstError? (g x)) (l : List α) :
    errorOf? (l.mapM f) = firstError? (l.flatMap g) := by
  rw [errorOf?_mapM]
  induction l with
  | nil => rfl
  | cons x l ih =>
    rw [List.findSome?_cons, List.flatMap_cons, firstError?, List.findSome?_append, h x, ih]
    unfold firstError?
    cases List.findSome? errorOf? (g x) <;> rfl

/-- What stands in each place can be found for all places together. -/
theorem exists_forall₂_iff {R : α → β → Prop} {l : List α} :
    (∃ ys, List.Forall₂ R l ys) ↔ ∀ x ∈ l, ∃ y, R x y := by
  induction l with
  | nil => exact ⟨fun _ => List.forall_mem_nil _, fun _ => ⟨[], .nil⟩⟩
  | cons x l ih =>
    rw [List.forall_mem_cons, ← ih]
    constructor
    · rintro ⟨ys, h⟩
      obtain ⟨y, rest, hy, hrest, -⟩ := List.forall₂_cons_left_iff.mp h
      exact ⟨⟨y, hy⟩, rest, hrest⟩
    · rintro ⟨⟨y, hy⟩, rest, hrest⟩
      exact ⟨y :: rest, .cons hy hrest⟩

theorem exists_eq_ok_of_any {p : α → Prop} [DecidablePred p] {r : Except ε α}
    (h : (r.toOption.any fun a => decide (p a)) = true) : ∃ a, r = .ok a ∧ p a := by
  cases r with
  | error e => cases h
  | ok a => exact ⟨a, rfl, of_decide_eq_true h⟩

end FirstErrors

/-! ## Items -/

namespace ColumnItem

/-- How an item is written: a skip is its word alone, and a new name stands behind an equals sign. -/
inductive IsWritten : ColumnItem → List Token → Prop
  | skip : IsWritten .skip [.word "skip"]
  | rename (column : String) (joint : Bool) :
    IsWritten (.rename column) [.word "rename", .mark '=' joint, .literal (.text column)]

/-- Items with commas between them, and perhaps one behind the last. -/
inductive AreWritten : List ColumnItem → List Token → Prop
  | nil : AreWritten [] []
  | last {item : ColumnItem} {ts : List Token} (h : IsWritten item ts) : AreWritten [item] ts
  | cons {item : ColumnItem} {items : List ColumnItem} {ts rest : List Token} (joint : Bool)
    (h : IsWritten item ts) (hrest : AreWritten items rest) :
    AreWritten (item :: items) (ts ++ .mark ',' joint :: rest)

variable {isLast : Bool} {ts rest value : List Token} {item : ColumnItem}
  {items : List ColumnItem}

theorem eq_of_afterMarks {c : Char} (h : Token.afterMarks [c] ts = some rest) :
    ∃ joint, ts = .mark c joint :: rest := by
  unfold Token.afterMarks at h
  split at h <;> simp_all

theorem eq_of_literal?_text {s : String} (h : Token.literal? ts = some (.text s, rest)) :
    ts = .literal (.text s) :: rest := by
  unfold Token.literal? at h
  split at h
  · obtain ⟨rfl, rfl⟩ := Prod.mk.inj (Option.some.inj h)
    rfl
  all_goals simp_all

/-- A path of one word has nothing of a path behind it. -/
theorem eq_of_moreWords (h : moreWords isLast ts = .ok ([], rest)) : ts = rest := by
  unfold moreWords at h
  split at h
  · obtain ⟨p, -, hp⟩ := exists_of_bind h
    cases hp
  · cases h
  · exact (Prod.mk.inj (Except.ok.inj h)).2

theorem eq_of_words {w : String} (h : words isLast ts = .ok ([w], rest)) :
    ts = .word w :: rest := by
  unfold words at h
  split at h
  · obtain ⟨⟨ws, rest'⟩, hmore, hp⟩ := exists_of_bind h
    obtain ⟨hw, rfl⟩ := Prod.mk.inj (Except.ok.inj hp)
    obtain ⟨rfl, rfl⟩ := List.cons.inj hw
    rw [eq_of_moreWords hmore]
  · cases h
  · cases h

theorem eq_of_newName {s : String} (h : newName isLast ts = .ok (s, rest)) :
    ∃ joint, ts = .mark '=' joint :: .literal (.text s) :: rest := by
  unfold newName at h
  split at h
  · rename_i value hvalue
    obtain ⟨joint, rfl⟩ := eq_of_afterMarks hvalue
    split at h
    · rename_i s' rest' hliteral
      obtain ⟨rfl, rfl⟩ := Prod.mk.inj (Except.ok.inj h)
      exact ⟨joint, by rw [eq_of_literal?_text hliteral]⟩
    · cases h
  · cases h

/-- What is read of an item is written, and the rest follows it. -/
theorem isWritten_of_read (h : read isLast ts = .ok (item, rest)) :
    ∃ written, ts = written ++ rest ∧ IsWritten item written := by
  unfold read at h
  obtain ⟨⟨path, after⟩, hwords, h⟩ := exists_of_bind h
  simp only [Bool.and_eq_true, decide_eq_true_eq] at h
  split at h
  · rename_i hpath
    obtain ⟨hplain, rfl⟩ := hpath
    rw [Option.isNone_iff_eq_none.mp hplain, Option.getD_none] at hwords
    obtain ⟨⟨column, after'⟩, hname, h⟩ := exists_of_bind h
    obtain ⟨rfl, rfl⟩ := Prod.mk.inj (Except.ok.inj h)
    obtain ⟨joint, rfl⟩ := eq_of_newName hname
    exact ⟨_, eq_of_words hwords, .rename column joint⟩
  · split at h
    · rename_i hpath
      obtain ⟨hplain, rfl⟩ := hpath
      rw [Option.isNone_iff_eq_none.mp hplain, Option.getD_none] at hwords
      obtain ⟨rfl, rfl⟩ := Prod.mk.inj (Except.ok.inj h)
      exact ⟨_, eq_of_words hwords, .skip⟩
    · cases h

/-- **An item** is read off tokens exactly if they are written as the item is. -/
theorem ofTokens_eq_ok_iff : ofTokens isLast ts = .ok item ↔ IsWritten item ts := by
  constructor
  · intro h
    obtain ⟨⟨found, rest⟩, hread, hdone⟩ := exists_of_bind h
    simp only [List.isEmpty_iff] at hdone
    split at hdone
    · rename_i hrest
      obtain ⟨written, rfl, hwritten⟩ := isWritten_of_read hread
      obtain rfl : found = item := Except.ok.inj hdone
      rw [hrest, List.append_nil]
      exact hwritten
    · cases hdone
  · rintro (_ | ⟨column, joint⟩) <;> rfl

/-! ## Items between commas -/

theorem IsWritten.ne_nil (h : IsWritten item ts) : ts ≠ [] := by
  cases h <;> exact List.cons_ne_nil _ _

theorem IsWritten.isComma_eq_false (h : IsWritten item ts) : ∀ t ∈ ts, isComma t = false := by
  cases h <;> simp [isComma]

/-- What is read of tokens between commas, piece by piece. -/
def readings : List (List Token) → List (Except SourceError ColumnItem)
  | [] | [[]] => []
  | piece :: rest => ofTokens rest.isEmpty piece :: readings rest

theorem errorOf?_ofPieces (pieces : List (List Token)) :
    errorOf? (ofPieces pieces) = firstError? (readings pieces) := by
  fun_induction readings pieces with
  | case1 => rfl
  | case2 => rfl
  | case3 piece rest hne ih =>
    rw [ofPieces.eq_3 _ _ hne, firstError?, List.findSome?_cons,
      errorOf?_bind _ _ fun item => (errorOf?_map (item :: ·) (ofPieces rest)).trans ih]
    cases ofTokens rest.isEmpty piece <;> rfl

theorem exists_comma (ts : List Token) :
    (∀ t ∈ ts, isComma t = false) ∨ ∃ piece joint rest,
      ts = piece ++ .mark ',' joint :: rest ∧ ∀ t ∈ piece, isComma t = false := by
  cases hfind : ts.find? isComma with
  | none => exact .inl fun t ht => by simpa using List.find?_eq_none.mp hfind t ht
  | some comma =>
    obtain ⟨hcomma, piece, rest, rfl, hpiece⟩ := List.find?_eq_some_iff_append.mp hfind
    unfold isComma at hcomma
    split at hcomma
    · exact .inr ⟨piece, _, rest, rfl, fun t ht => by simpa using hpiece t ht⟩
    · cases hcomma

theorem listOf_of_forall (hnone : ∀ t ∈ ts, isComma t = false) (hne : ts ≠ []) :
    listOf ts = (ofTokens true ts).map fun item => [item] := by
  have hlast : ([] : List (List Token)).isEmpty = true := rfl
  rw [listOf, List.splitOnP_eq_singleton hnone, ofPieces.eq_3 _ _ fun h => absurd h hne, hlast]
  cases ofTokens true ts <;> rfl

theorem listOf_append {piece : List Token} (hpiece : ∀ t ∈ piece, isComma t = false)
    (joint : Bool) (rest : List Token) :
    listOf (piece ++ .mark ',' joint :: rest) =
      ofTokens false piece >>= fun item => listOf rest >>= fun items => pure (item :: items) := by
  have hrest := List.splitOnP_ne_nil isComma rest
  have hmore : (rest.splitOnP isComma).isEmpty = false := List.isEmpty_eq_false_iff.mpr hrest
  rw [listOf, List.splitOnP_append_cons_of_forall_mem hpiece _ rfl,
    ofPieces.eq_3 _ _ fun _ h => hrest h, hmore]
  rfl

theorem listOf_of_areWritten (h : AreWritten items ts) : listOf ts = .ok items := by
  induction h with
  | nil => rfl
  | last h =>
    rw [listOf_of_forall h.isComma_eq_false h.ne_nil, ofTokens_eq_ok_iff.mpr h]
    rfl
  | cons joint h _ ih =>
    rw [listOf_append h.isComma_eq_false, ofTokens_eq_ok_iff.mpr h, ih]
    rfl

theorem areWritten_of_listOf (h : listOf ts = .ok items) : AreWritten items ts := by
  -- what follows the first comma is shorter
  induction hlength : ts.length using Nat.strongRecOn generalizing ts items with
  | ind n ih =>
    rcases exists_comma ts with hnone | ⟨piece, joint, rest, rfl, hpiece⟩
    · by_cases hne : ts = []
      · subst hne
        obtain rfl : [] = items := Except.ok.inj h
        exact .nil
      · rw [listOf_of_forall hnone hne] at h
        cases hitem : ofTokens true ts with
        | error e =>
          rw [hitem] at h
          cases h
        | ok item =>
          rw [hitem] at h
          obtain rfl : [item] = items := Except.ok.inj h
          exact .last (ofTokens_eq_ok_iff.mp hitem)
    · rw [listOf_append hpiece] at h
      obtain ⟨item, hitem, h⟩ := exists_of_bind h
      obtain ⟨items', hitems, h⟩ := exists_of_bind h
      obtain rfl : item :: items' = items := Except.ok.inj h
      have hshorter : rest.length < n := by
        rw [← hlength, List.length_append, List.length_cons]
        omega
      exact .cons joint (ofTokens_eq_ok_iff.mp hitem) (ih _ hshorter hitems rfl)

/-- **Items** are read off tokens exactly if they are written so. -/
theorem listOf_eq_ok_iff : listOf ts = .ok items ↔ AreWritten items ts :=
  ⟨areWritten_of_listOf, listOf_of_areWritten⟩

/-- The new name that an item gives. -/
def name? : ColumnItem → Option String
  | rename column => some column
  | skip => none

end ColumnItem

/-! ## Attributes -/

namespace Source.Attribute

variable {a : Attribute} {items : List ColumnItem}

/-- Whether an attribute says anything of columns. -/
def IsRow (a : Attribute) : Prop :=
  a.rooted = false ∧ a.path = ["row"]

instance : DecidablePred IsRow := fun _ => inferInstanceAs (Decidable (_ ∧ _))

/-- The items that an attribute says of a column.  They stand in one group, whatever its
brackets. -/
def Says (a : Attribute) (items : List ColumnItem) : Prop :=
  if a.IsRow then ∃ ts, a.body = .list ts ∧ ColumnItem.AreWritten items ts else items = []

/-- What is read of an attribute, item by item. -/
def readings (a : Attribute) : List (Except DeriveError ColumnItem) :=
  if a.IsRow then
    match a.body with
    | .list ts => (ColumnItem.readings (ts.splitOnP ColumnItem.isComma)).map (·.mapError .source)
    | .value => [.error .missingParentheses]
    | .none => [.error .missingItems]
  else []

theorem isRow_iff : (!a.rooted && a.path = ["row"]) = true ↔ a.IsRow := by
  simp [IsRow]

/-- **What an attribute says** is read off it. -/
theorem ofAttribute_eq_ok_iff : ColumnItem.ofAttribute a = .ok items ↔ a.Says items := by
  unfold ColumnItem.ofAttribute Says
  simp only [isRow_iff]
  split
  · cases hbody : a.body with
    | none => simp
    | value => simp
    | list ts =>
      simp only [AttributeBody.list.injEq, exists_eq_left']
      rw [← ColumnItem.listOf_eq_ok_iff]
      cases ColumnItem.listOf ts <;> simp [Except.mapError]
  · simp [eq_comm]

theorem exists_says_iff : (∃ items, a.Says items) ↔
    (a.IsRow → ∃ ts items, a.body = .list ts ∧ ColumnItem.AreWritten items ts) := by
  unfold Says
  split
  · rename_i hrow
    exact ⟨fun ⟨items, ts, h⟩ _ => ⟨ts, items, h⟩, fun h => have ⟨ts, items, h⟩ := h hrow
      ⟨items, ts, h⟩⟩
  · rename_i hrow
    exact ⟨fun _ h => absurd h hrow, fun _ => ⟨[], rfl⟩⟩

theorem errorOf?_ofAttribute (a : Attribute) :
    errorOf? (ColumnItem.ofAttribute a) = firstError? a.readings := by
  unfold ColumnItem.ofAttribute readings
  simp only [isRow_iff]
  split
  · cases a.body with
    | none => rfl
    | value => rfl
    | list ts =>
      have hpieces := ColumnItem.errorOf?_ofPieces (ts.splitOnP ColumnItem.isComma)
      simp only
      rw [firstError?_map_mapError, ← hpieces, ColumnItem.listOf]
      cases ColumnItem.ofPieces (ts.splitOnP ColumnItem.isComma) <;> rfl
  · rfl

/-- No attribute is to blame for a lack of columns. -/
theorem noColumns_not_mem_readings (a : Attribute) : .error .noColumns ∉ a.readings := by
  unfold readings
  split
  · cases a.body with
    | none => simp
    | value => simp
    | list ts =>
      simp only [List.mem_map, not_exists, not_and]
      intro r _
      cases r <;> simp [Except.mapError]
  · exact List.not_mem_nil

end Source.Attribute

/-! ## Fields -/

/-- Whether a name is a word, raw or not. -/
def Source.IsWord (name : String) : Prop :=
  ∃ c cs, Text.isWordStart c = true ∧ cs.all Text.isWordPart = true ∧
    (name.toList = c :: cs ∨ name.toList = 'r' :: '#' :: c :: cs)

theorem Source.IsWord.exists_unmarked {name : String} (h : IsWord name) :
    ∃ w, '#' ∉ w ∧ (name.toList = w ∨ name.toList = 'r' :: '#' :: w) := by
  have hstart : Text.isWordStart '#' = false := by decide
  have hpart : Text.isWordPart '#' = false := by decide
  obtain ⟨c, cs, hc, hcs, hname⟩ := h
  refine ⟨c :: cs, fun hmem => ?_, hname⟩
  rcases List.mem_cons.mp hmem with rfl | hmem
  · rw [hstart] at hc
    cases hc
  · rw [List.all_eq_true.mp hcs _ hmem] at hpart
    cases hpart

namespace Field

variable {f : Field} {items : List ColumnItem}

/-- The items that the attributes of a field say of its column, in order. -/
def Says (f : Field) (items : List ColumnItem) : Prop :=
  ∃ parts, List.Forall₂ Attribute.Says f.attributes parts ∧ items = parts.flatten

/-- Whether an attribute of a field skips it. -/
def IsSkipped (f : Field) : Prop :=
  ∃ items, f.Says items ∧ .skip ∈ items

/-- What is read of the attributes of a field, item by item. -/
def readings (f : Field) : List (Except DeriveError ColumnItem) :=
  f.attributes.flatMap Attribute.readings

/-- The name of a field without the mark of a raw word. -/
def plainName (f : Field) : String :=
  match f.name.toList with
  | 'r' :: '#' :: cs => String.ofList cs
  | _ => f.name

/-- Where a field goes of which some items are said: a skip anywhere drops it, and otherwise the last
new name counts. -/
def bindingOf (f : Field) (items : List ColumnItem) : Option Binding :=
  if .skip ∈ items then none
  else some ⟨(items.filterMap ColumnItem.name?).getLast?.getD f.plainName, f.name⟩

theorem mapM_ofAttribute_eq_ok_iff {attributes : List Attribute} {parts : List (List ColumnItem)} :
    attributes.mapM ColumnItem.ofAttribute = .ok parts ↔
      List.Forall₂ Attribute.Says attributes parts := by
  have hsame : (fun a items => ColumnItem.ofAttribute a = .ok items) = Attribute.Says :=
    funext fun a => funext fun items => propext Attribute.ofAttribute_eq_ok_iff
  rw [mapM_eq_ok_iff, hsame]

/-- The attributes of a field say one thing only. -/
theorem Says.unique {items' : List ColumnItem} (h : f.Says items) (h' : f.Says items') :
    items = items' := by
  obtain ⟨parts, hparts, rfl⟩ := h
  obtain ⟨parts', hparts', rfl⟩ := h'
  have hsame := (mapM_ofAttribute_eq_ok_iff.mpr hparts).symm.trans
    (mapM_ofAttribute_eq_ok_iff.mpr hparts')
  rw [Except.ok.inj hsame]

theorem exists_says_iff : (∃ items, f.Says items) ↔ ∀ a ∈ f.attributes, ∃ items, a.Says items := by
  rw [← exists_forall₂_iff]
  exact ⟨fun ⟨_, parts, hparts, _⟩ => ⟨parts, hparts⟩,
    fun ⟨parts, hparts⟩ => ⟨_, parts, hparts, rfl⟩⟩

theorem bindingOf_eq_none_iff (h : f.Says items) : f.bindingOf items = none ↔ f.IsSkipped := by
  have hskip : f.IsSkipped ↔ .skip ∈ items :=
    ⟨fun ⟨_, hsaid, hmem⟩ => h.unique hsaid ▸ hmem, fun hmem => ⟨items, h, hmem⟩⟩
  rw [hskip, bindingOf]
  split <;> simp_all

theorem foldl_apply (items : List ColumnItem) (c : Column) :
    items.foldl Column.apply c =
      ⟨(items.filterMap ColumnItem.name?).getLast?.getD c.name,
        c.skip || decide (.skip ∈ items)⟩ := by
  induction items using List.reverseRecOn with
  | nil => simp
  | append_singleton items item ih =>
    rw [List.foldl_append, ih, List.foldl_cons, List.foldl_nil, List.filterMap_append]
    cases item with
    | rename column => simp [Column.apply, ColumnItem.name?]
    | skip => simp [Column.apply, ColumnItem.name?]

/-- The marks of a raw word are no part of a word. -/
theorem dropRaw_of_not_mem {cs : List Char} (h : '#' ∉ cs) : dropRaw cs = cs := by
  unfold dropRaw
  split
  · simp at h
  · rfl

theorem name_column (h : IsWord f.name) : f.column.name = f.plainName := by
  obtain ⟨w, hw, hname⟩ := h.exists_unmarked
  unfold column plainName
  rcases hname with hname | hname
  · simp only [hname, dropRaw_of_not_mem hw]
    split
    · simp at hw
    · rw [← hname, String.ofList_toList]
  · simp only [hname]
    rw [dropRaw, dropRaw_of_not_mem hw]

/-- **Where a field goes** follows from the items that its attributes say. -/
theorem binding_eq_ok_iff (h : IsWord f.name) {b : Option Binding} :
    f.binding = .ok b ↔ ∃ items, f.Says items ∧ b = f.bindingOf items := by
  have hbinding : ∀ items : List ColumnItem,
      (if (items.foldl Column.apply f.column).skip then none
        else some ⟨(items.foldl Column.apply f.column).name, f.name⟩) = f.bindingOf items := by
    intro items
    have hskip : f.column.skip = false := rfl
    rw [foldl_apply, bindingOf, name_column h, hskip]
    simp
  constructor
  · intro hb
    obtain ⟨parts, hparts, hb⟩ := exists_of_bind hb
    refine ⟨parts.flatten, ⟨parts, mapM_ofAttribute_eq_ok_iff.mp hparts, rfl⟩, ?_⟩
    rw [← hbinding]
    exact (Except.ok.inj hb).symm
  · rintro ⟨_, ⟨parts, hparts, rfl⟩, rfl⟩
    rw [binding, mapM_ofAttribute_eq_ok_iff.mpr hparts, ← hbinding]
    rfl

theorem errorOf?_binding (f : Field) : errorOf? f.binding = firstError? f.readings := by
  rw [binding, readings, ← errorOf?_mapM_eq_firstError? Attribute.errorOf?_ofAttribute]
  exact errorOf?_map _ _

/-- Two fields of one name, with the same attributes that say anything of columns. -/
def Alike (f g : Field) : Prop :=
  f.name = g.name ∧ f.attributes.filter Attribute.IsRow = g.attributes.filter Attribute.IsRow

theorem map_flatten_cons {r r' : Except DeriveError (List (List ColumnItem))}
    (items : List ColumnItem) (h : r.map List.flatten = r'.map List.flatten) :
    (r >>= fun parts => pure (items :: parts)).map List.flatten =
      (r' >>= fun parts => pure (items :: parts)).map List.flatten := by
  have hmap : ∀ r : Except DeriveError (List (List ColumnItem)),
      (r >>= fun parts => pure (items :: parts)).map List.flatten =
        (r.map List.flatten).map (items ++ ·) := by
    intro r
    cases r <;> rfl
  rw [hmap, hmap, h]

/-- Attributes of other paths add nothing. -/
theorem mapM_ofAttribute_filter (attributes : List Attribute) :
    ((attributes.filter Attribute.IsRow).mapM ColumnItem.ofAttribute).map List.flatten =
      (attributes.mapM ColumnItem.ofAttribute).map List.flatten := by
  induction attributes with
  | nil => rfl
  | cons a attributes ih =>
    rw [List.mapM_cons]
    by_cases ha : a.IsRow
    · rw [List.filter_cons_of_pos (by simpa using ha), List.mapM_cons]
      cases ColumnItem.ofAttribute a with
      | error e => rfl
      | ok items => exact map_flatten_cons items ih
    · have hnone : ColumnItem.ofAttribute a = .ok [] :=
        Attribute.ofAttribute_eq_ok_iff.mpr (by rw [Attribute.Says, if_neg ha])
      rw [List.filter_cons_of_neg (by simpa using ha), hnone, ih]
      cases attributes.mapM ColumnItem.ofAttribute <;> rfl

theorem binding_eq_of_alike {g : Field} (h : f.Alike g) : f.binding = g.binding := by
  -- only the items of all attributes together decide, so those without any can be left out
  have hbinding : ∀ f : Field, f.binding =
      ((f.attributes.mapM ColumnItem.ofAttribute).map List.flatten).map fun items =>
        let column := items.foldl Column.apply f.column
        if column.skip then none else some ⟨column.name, f.name⟩ := by
    intro f
    unfold binding
    cases f.attributes.mapM ColumnItem.ofAttribute <;> rfl
  have hcolumn : f.column = g.column := by
    unfold column
    rw [h.1]
  rw [hbinding f, hbinding g, ← mapM_ofAttribute_filter, h.2, mapM_ofAttribute_filter, hcolumn, h.1]

end Field

/-! ## Declarations -/

namespace Declaration

variable {d : Declaration} {fields : List Field}

theorem derive_of_error (hbody : d.body = .fields fields) {e : DeriveError}
    (h : fields.mapM Field.binding = .error e) : d.derive = .error e := by
  unfold derive
  rw [hbody]
  simp only [h]
  rfl

theorem derive_of_found (hbody : d.body = .fields fields) {found : List (Option Binding)}
    (h : fields.mapM Field.binding = .ok found) :
    d.derive = if found.reduceOption = [] then .error .noColumns
      else .ok ⟨found.reduceOption⟩ := by
  unfold derive List.reduceOption
  rw [hbody]
  simp only [h]
  cases hfound : found.filterMap id with
  | nil =>
    simp only [bind, Except.bind, hfound]
    rfl
  | cons b rest =>
    simp only [bind, Except.bind, hfound]
    rfl

/-- **Where fields go** follows from the items that their attributes say. -/
theorem mapM_binding_eq_ok_iff (hnames : ∀ f ∈ fields, IsWord f.name)
    {found : List (Option Binding)} : fields.mapM Field.binding = .ok found ↔
      ∃ items, List.Forall₂ Field.Says fields items ∧
        found = List.zipWith Field.bindingOf fields items := by
  rw [mapM_eq_ok_iff]
  induction fields generalizing found with
  | nil => simp
  | cons f fields ih =>
    rw [List.forall_mem_cons] at hnames
    rw [List.forall₂_cons_left_iff]
    constructor
    · rintro ⟨b, bs, hb, hbs, rfl⟩
      obtain ⟨items, hsaid, rfl⟩ := (Field.binding_eq_ok_iff hnames.1).mp hb
      obtain ⟨rest, hrest, rfl⟩ := (ih hnames.2).mp hbs
      exact ⟨items :: rest, .cons hsaid hrest, rfl⟩
    · rintro ⟨_, hall, rfl⟩
      obtain ⟨items, rest, hsaid, hrest, rfl⟩ := List.forall₂_cons_left_iff.mp hall
      exact ⟨_, _, (Field.binding_eq_ok_iff hnames.1).mpr ⟨items, hsaid, rfl⟩,
        (ih hnames.2).mpr ⟨rest, hrest, rfl⟩, rfl⟩

theorem firstError?_eq_none_iff (hnames : ∀ f ∈ fields, IsWord f.name) :
    firstError? (fields.flatMap Field.readings) = none ↔
      ∃ items, List.Forall₂ Field.Says fields items := by
  rw [← errorOf?_mapM_eq_firstError? Field.errorOf?_binding, errorOf?_eq_none_iff]
  constructor
  · rintro ⟨found, hfound⟩
    obtain ⟨items, hsaid, -⟩ := (mapM_binding_eq_ok_iff hnames).mp hfound
    exact ⟨items, hsaid⟩
  · rintro ⟨items, hsaid⟩
    exact ⟨_, (mapM_binding_eq_ok_iff hnames).mpr ⟨items, hsaid, rfl⟩⟩

/-- All fields can be read if all their attributes that say anything of columns can. -/
theorem firstError?_eq_none_iff_forall (hnames : ∀ f ∈ fields, IsWord f.name) :
    firstError? (fields.flatMap Field.readings) = none ↔
      ∀ f ∈ fields, ∀ a ∈ f.attributes, a.IsRow →
        ∃ ts items, a.body = .list ts ∧ ColumnItem.AreWritten items ts := by
  rw [firstError?_eq_none_iff hnames, exists_forall₂_iff]
  simp only [Field.exists_says_iff, Attribute.exists_says_iff]

theorem reduceOption_eq_nil_iff {items : List (List ColumnItem)}
    (hsaid : List.Forall₂ Field.Says fields items) :
    (List.zipWith Field.bindingOf fields items).reduceOption = [] ↔
      ∀ f ∈ fields, f.IsSkipped := by
  induction hsaid with
  | nil => simp
  | cons h _ ih =>
    rw [List.zipWith_cons_cons, List.forall_mem_cons, ← ih, ← Field.bindingOf_eq_none_iff h]
    cases Field.bindingOf _ _ <;> simp

/-- **How a derivation ends**: with what cannot be read first, without columns, or with the columns of
the fields that are left. -/
theorem derive_cases (hbody : d.body = .fields fields) (hnames : ∀ f ∈ fields, IsWord f.name) :
    let readings := fields.flatMap Field.readings
    (∃ e, firstError? readings = some e ∧ d.derive = .error e) ∨
    (firstError? readings = none ∧ (∀ f ∈ fields, f.IsSkipped) ∧ d.derive = .error .noColumns) ∨
    (firstError? readings = none ∧ (∃ f ∈ fields, ¬f.IsSkipped) ∧
      ∃ items, List.Forall₂ Field.Says fields items ∧
        d.derive = .ok ⟨(List.zipWith Field.bindingOf fields items).reduceOption⟩) := by
  intro readings
  cases hfirst : firstError? readings with
  | some e =>
    have herror := hfirst
    rw [← errorOf?_mapM_eq_firstError? Field.errorOf?_binding, errorOf?_eq_some_iff] at herror
    exact .inl ⟨e, rfl, derive_of_error hbody herror⟩
  | none =>
    obtain ⟨items, hsaid⟩ := (firstError?_eq_none_iff hnames).mp hfirst
    -- all fields are read, so it is left to tell whether one goes into a column
    have hderive := derive_of_found hbody ((mapM_binding_eq_ok_iff hnames).mpr ⟨items, hsaid, rfl⟩)
    by_cases hall : ∀ f ∈ fields, f.IsSkipped
    · rw [if_pos ((reduceOption_eq_nil_iff hsaid).mpr hall)] at hderive
      exact .inr (.inl ⟨rfl, hall, hderive⟩)
    · rw [if_neg (mt (reduceOption_eq_nil_iff hsaid).mp hall)] at hderive
      simp only [not_forall, exists_prop] at hall
      exact .inr (.inr ⟨rfl, hall, items, hsaid, hderive⟩)

theorem firstError?_ne_noColumns (fields : List Field) :
    firstError? (fields.flatMap Field.readings) ≠ some .noColumns := by
  intro h
  obtain ⟨f, -, hf⟩ := List.mem_flatMap.mp (mem_of_firstError? h)
  obtain ⟨a, -, ha⟩ := List.mem_flatMap.mp hf
  exact a.noColumns_not_mem_readings ha

/-- Nothing but names and what attributes say of columns matters. -/
theorem derive_eq_of_alike {d' : Declaration} {fields' : List Field}
    (hbody : d.body = .fields fields) (hbody' : d'.body = .fields fields')
    (h : List.Forall₂ Field.Alike fields fields') : d'.derive = d.derive := by
  have hsame : fields'.mapM Field.binding = fields.mapM Field.binding := by
    clear hbody hbody'
    induction h with
    | nil => rfl
    | cons hf _ ih => rw [List.mapM_cons, List.mapM_cons, Field.binding_eq_of_alike hf, ih]
  cases hfound : fields.mapM Field.binding with
  | error e =>
    rw [derive_of_error hbody hfound, derive_of_error hbody' (hsame.trans hfound)]
  | ok found =>
    rw [derive_of_found hbody hfound, derive_of_found hbody' (hsame.trans hfound)]

theorem body_of_fields_ne_nil (h : d.fields ≠ []) : d.body = .fields d.fields := by
  unfold fields at h ⊢
  cases hbody : d.body <;> simp_all

end Declaration

theorem RecordType.ofSource_of_ok {text : String} {d : Declaration}
    (h : Declaration.ofSource text = .ok d) : ofSource text = d.derive := by
  unfold ofSource
  rw [h]
  rfl

/-- **The derivation follows the attributes.**  An item is read if it is the word `skip` alone, or
`rename` with a string behind an equals sign.  A record type is derived of a structure with named
fields exactly if all that the `row` attributes of its fields hold are such items, with commas between
them in one group of any brackets, and a field is not skipped.  Its columns are those of the fields
that are not skipped, in order, each by the last new name in all `row` attributes of the field, or
else by the field's name without the mark of a raw word.  Otherwise the error is that of the first
item, in order of fields, attributes and items, that cannot be read, and only if there is none, that
there are no columns.  Other attributes, types and parameters have no influence. -/
theorem derive_follows_attributes {text : String} {d : Declaration} {fields : List Field}
    (hd : Declaration.ofSource text = .ok d) (hbody : d.body = .fields fields)
    (hnames : ∀ f ∈ fields, IsWord f.name) :
    let derived := RecordType.ofSource text
    let readings := fields.flatMap Field.readings
    (∀ isLast ts item, ColumnItem.ofTokens isLast ts = .ok item ↔ item.IsWritten ts) ∧
    ((∃ r, derived = .ok r) ↔
      (∀ f ∈ fields, ∀ a ∈ f.attributes, a.IsRow →
        ∃ ts items, a.body = .list ts ∧ ColumnItem.AreWritten items ts) ∧
      ∃ f ∈ fields, ¬f.IsSkipped) ∧
    (∀ r, derived = .ok r → ∃ items, List.Forall₂ Field.Says fields items ∧
      r.bindings = (List.zipWith Field.bindingOf fields items).reduceOption) ∧
    (∀ e, derived = .error e ↔ firstError? readings = some e ∨
      (e = .noColumns ∧ firstError? readings = none ∧ ∀ f ∈ fields, f.IsSkipped)) ∧
    firstError? readings ≠ some .noColumns ∧
    ∀ text' d' fields', Declaration.ofSource text' = .ok d' → d'.body = .fields fields' →
      List.Forall₂ Field.Alike fields fields' → RecordType.ofSource text' = derived := by
  intro derived readings
  have hderived : derived = d.derive := RecordType.ofSource_of_ok hd
  have hcases := Declaration.derive_cases hbody hnames
  rw [← hderived] at hcases
  refine ⟨fun isLast ts item => ColumnItem.ofTokens_eq_ok_iff, ?_, fun r hr => ?_, fun e => ?_,
    Declaration.firstError?_ne_noColumns fields, fun text' d' fields' hd' hbody' halike => ?_⟩
  · rw [← Declaration.firstError?_eq_none_iff_forall hnames]
    rcases hcases with ⟨e, hfirst, he⟩ | ⟨hfirst, hall, he⟩ | ⟨hfirst, hleft, items, -, hok⟩
    · simp [hfirst, he]
    · simpa [he] using fun _ => hall
    · simpa [hfirst, hok] using hleft
  · rcases hcases with ⟨e, -, he⟩ | ⟨-, -, he⟩ | ⟨-, -, items, hsaid, hok⟩
    · exact nomatch he.symm.trans hr
    · exact nomatch he.symm.trans hr
    · obtain rfl := Except.ok.inj (hok.symm.trans hr)
      exact ⟨items, hsaid, rfl⟩
  · rcases hcases with ⟨e', hfirst, he⟩ | ⟨hfirst, hall, he⟩ | ⟨hfirst, hleft, items, -, hok⟩
    · simp [readings, hfirst, he]
    · simpa [readings, hfirst, he, eq_comm] using fun _ => hall
    · obtain ⟨f, hf, hkept⟩ := hleft
      simpa [readings, hfirst, hok] using fun _ => ⟨f, hf, hkept⟩
  · rw [RecordType.ofSource_of_ok hd', hderived]
    exact Declaration.derive_eq_of_alike hbody hbody' halike

/-- A renamed field, a skipped one, and a raw word for a name. -/
theorem derive_follows_attributes_of_event :
    let text := "struct Event<T> \x7b #[row(rename = \"type\")] kind: String, " ++
      "#[serde(default)] #[row(skip)] cache: Vec<T>, r#match: i64 \x7d"
    ∃ d, Declaration.ofSource text = .ok d ∧ d.body = .fields d.fields ∧
      (∀ f ∈ d.fields, IsWord f.name) ∧
      RecordType.ofSource text = .ok ⟨[⟨"type", "kind"⟩, ⟨"match", "r#match"⟩]⟩ ∧
      firstError? (d.fields.flatMap Field.readings) = none ∧
      (∃ f ∈ d.fields, ¬f.IsSkipped) ∧
      ∃ items, List.Forall₂ Field.Says d.fields items ∧
        (List.zipWith Field.bindingOf d.fields items).reduceOption =
          [⟨"type", "kind"⟩, ⟨"match", "r#match"⟩] := by
  intro text
  have hread : ((Declaration.ofSource text).toOption.any fun d =>
      decide (d.fields.map Field.name = ["kind", "cache", "r#match"])) = true := by
    decide +kernel
  have hderived : RecordType.ofSource text =
      .ok ⟨[⟨"type", "kind"⟩, ⟨"match", "r#match"⟩]⟩ := by
    decide +kernel
  obtain ⟨d, hd, hfields⟩ := exists_eq_ok_of_any hread
  have hbody : d.body = .fields d.fields := by
    refine Declaration.body_of_fields_ne_nil fun hnil => ?_
    rw [hnil] at hfields
    cases hfields
  have hnames : ∀ f ∈ d.fields, IsWord f.name := by
    have hwords : ∀ name ∈ ["kind", "cache", "r#match"], IsWord name := by
      simp only [List.forall_mem_cons]
      exact ⟨⟨'k', ['i', 'n', 'd'], by decide, by decide, .inl (by decide)⟩,
        ⟨'c', ['a', 'c', 'h', 'e'], by decide, by decide, .inl (by decide)⟩,
        ⟨'m', ['a', 't', 'c', 'h'], by decide, by decide, .inr (by decide)⟩,
        List.forall_mem_nil _⟩
    intro f hf
    exact hwords _ (hfields ▸ List.mem_map_of_mem hf)
  obtain ⟨-, hiff, hresult, herrors, -, -⟩ := derive_follows_attributes hd hbody hnames
  obtain ⟨items, hsaid, hbindings⟩ := hresult _ hderived
  refine ⟨d, hd, hbody, hnames, hderived, ?_, (hiff.mp ⟨_, hderived⟩).2, items, hsaid,
    hbindings.symm⟩
  -- an error would be that of the derivation, which has none
  cases hfirst : firstError? (d.fields.flatMap Field.readings) with
  | none => rfl
  | some e => exact nomatch hderived.symm.trans ((herrors e).mpr (.inl hfirst))

/-- Brackets do as well as parentheses, of which there are none here. -/
theorem brackets_hold_items :
    let text := "struct S \x7b #[row[skip]] a: i64, b: i64 \x7d"
    '(' ∉ text.toList ∧
      (∃ d, Declaration.ofSource text = .ok d ∧ ∃ f ∈ d.fields, ∃ a ∈ f.attributes, a.IsRow) ∧
      RecordType.ofSource text = .ok ⟨[⟨"b", "b"⟩]⟩ := by
  intro text
  have hread : ((Declaration.ofSource text).toOption.any fun d =>
      decide (∃ f ∈ d.fields, ∃ a ∈ f.attributes, a.IsRow)) = true := by
    decide +kernel
  exact ⟨by decide +kernel, exists_eq_ok_of_any hread, by decide +kernel⟩

end SchemaKit
