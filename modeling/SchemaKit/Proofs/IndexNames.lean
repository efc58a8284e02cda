import Mathlib.Data.List.Flatten
import SchemaKit.Proofs.Built
import SchemaKit.Proofs.Pieces

/-!
# The names of indexes

An index that is given no name is called after its table and columns, with underscores between them.
Since a name may hold underscores itself, the name of the index tells what stands between underscores
and not where a column begins: two such names are the same exactly if table and columns have the same
pieces, and they tell table and columns apart where every name has its number of underscores
(`Index.default_names_agree_iff`).
-/

namespace SchemaKit.Index

open Statement Sql
open Sql.Identifier (isIdentifier)

variable {s s' : Index} {q q' : Statement}

/-! ## The name in a statement -/

/-- The name of the index that a statement creates: the word in front of ON. -/
def createdName (text : String) : Option (List Char) :=
  ((Text.words text.toList).takeWhile (· ≠ "ON".toList)).getLast?

theorem createdName_eq {text name : String} {front rest : List Char}
    (htext : text.toList = front ++ ' ' :: (name.toList ++ ' ' :: ("ON".toList ++ ' ' :: rest)))
    (hfront : "ON".toList ∉ Text.words front) (hne : name ≠ "") (hon : name ≠ "ON")
    (hname : ∀ c ∈ name.toList, Text.isBlank c = false) : createdName text = some name.toList := by
  have hword : ∀ c ∈ "ON".toList, Text.isBlank c = false := by simp [Text.isBlank]
  have hwords : Text.words text.toList =
      (Text.words front ++ [name.toList]) ++ "ON".toList :: Text.words rest := by
    rw [htext, Text.words_append_cons (by decide),
      Text.words_cons (String.toList_eq_nil_iff.not.mpr hne) hname (by decide),
      Text.words_cons (by decide) hword (by decide), List.append_assoc, List.singleton_append]
  have hkept : ∀ w ∈ Text.words front ++ [name.toList], decide (w ≠ "ON".toList) = true := by
    intro w hw
    rw [decide_eq_true_eq]
    rcases List.mem_append.mp hw with hw | hw
    · rintro rfl
      exact hfront hw
    · rw [List.mem_singleton.mp hw]
      exact fun h => hon (String.toList_inj.mp h)
  rw [createdName, hwords, Text.takeWhile_append_cons hkept (by decide), List.getLast?_concat]

/-- The name of an index stands between a front without ON and what the index is on. -/
theorem exists_front (s : Index) (method : IndexMethod) : ∃ front rest,
    (s.text method).toList =
      front ++ ' ' :: (s.indexName.toList ++ ' ' :: ("ON".toList ++ ' ' :: rest)) ∧
    "ON".toList ∉ Text.words front := by
  obtain ⟨front, hfront, hwords⟩ : ∃ front,
      ("CREATE " ++ (if s.unique then "UNIQUE " else "") ++ "INDEX " ++
        (if s.ifNotExists then "IF NOT EXISTS " else "")).toList = front ++ [' '] ∧
      "ON".toList ∉ Text.words front := by
    cases s.unique <;> cases s.ifNotExists
    · exact ⟨"CREATE INDEX".toList, by decide, by decide⟩
    · exact ⟨"CREATE INDEX IF NOT EXISTS".toList, by decide, by decide⟩
    · exact ⟨"CREATE UNIQUE INDEX".toList, by decide, by decide⟩
    · exact ⟨"CREATE UNIQUE INDEX IF NOT EXISTS".toList, by decide, by decide⟩
  refine ⟨front, (qualified s.schema s.table ++ " USING " ++ method.name ++ " (" ++
    commaList s.columns ++ ")").toList, ?_, hwords⟩
  have hon : " ON ".toList = ' ' :: ("ON".toList ++ [' ']) := by decide
  delta text
  simp only [String.toList_append] at hfront ⊢
  rw [hfront, hon]
  simp only [List.append_assoc, List.cons_append, List.nil_append]

/-! ## Default names -/

def parts (s : Index) : List String :=
  s.table :: s.columns

/-- What stands between underscores in the names of a table and its columns. -/
def pieces (s : Index) : List (List Char) :=
  s.parts.flatMap fun name => name.toList.splitOn '_'

/-- How many underscores are in each of the names. -/
def underscores (s : Index) : List Nat :=
  s.parts.map fun name => name.toList.count '_'

theorem toList_indexName (hname : s.name = none) (hcolumns : s.columns ≠ []) :
    s.indexName.toList = "idx_".toList ++ ['_'].intercalate (s.parts.map String.toList) := by
  obtain ⟨c, columns, hcolumns⟩ := List.exists_cons_of_ne_nil hcolumns
  rw [indexName, hname, Option.getD_none, defaultName, parts, hcolumns, String.toList_append,
    String.toList_append, String.toList_append, String.toList_intercalate]
  simp only [List.map_cons, List.intercalate_cons_cons, List.append_assoc]
  rfl

theorem isIdentifier_of_mem_parts (h : s.build = .ok q) :
    ∀ name ∈ s.parts, isIdentifier name = true := by
  obtain ⟨htable, -, hcolumns, -⟩ := of_build h
  exact List.forall_mem_cons.mpr
    ⟨names_eq_ok_iff.mp htable _ (List.mem_cons_self ..), names_eq_ok_iff.mp hcolumns⟩

theorem build_of_isIdentifier {method : IndexMethod}
    (hnames : ∀ name ∈ s.schema :: s.parts, isIdentifier name = true) (hcolumns : s.columns ≠ [])
    (hname : s.name = none) (hmethod : IndexMethod.check s.method = .ok method) :
    s.build = .ok ⟨s.text method, []⟩ := by
  rw [parts, List.forall_mem_cons, List.forall_mem_cons] at hnames
  have htable : names [s.table, s.schema] = .ok () :=
    names_eq_ok_iff.mpr (by simp [hnames.1, hnames.2.1])
  have hempty : s.columns.isEmpty = false := List.isEmpty_eq_false_iff.mpr hcolumns
  rw [build, htable, hempty, names_eq_ok_iff.mpr hnames.2.2, hname, hmethod]
  rfl

theorem isBlank_eq_false_of_isPart {c : Char} (h : Identifier.isPart c = true) :
    Text.isBlank c = false := by
  rw [Identifier.isPart, Bool.or_eq_true, beq_iff_eq] at h
  rcases h with h | rfl
  · exact Text.isBlank_eq_false_of_isAlphanum h
  · decide

theorem isBlank_of_mem_indexName (hname : s.name = none) (h : s.build = .ok q) :
    ∀ c ∈ s.indexName.toList, Text.isBlank c = false := by
  obtain ⟨-, hcolumns, -⟩ := of_build h
  intro c hc
  rw [toList_indexName hname hcolumns, List.mem_append] at hc
  rcases hc with hc | hc
  · have hfront : ∀ c ∈ "idx_".toList, Text.isBlank c = false := by simp [Text.isBlank]
    exact hfront c hc
  · rcases Text.of_mem_intercalate hc with hc | ⟨part, hpart, hc⟩
    · rw [List.mem_singleton.mp hc]
      decide
    · obtain ⟨name, hmem, rfl⟩ := List.mem_map.mp hpart
      exact isBlank_eq_false_of_isPart
        (Identifier.isPart_of_isIdentifier (isIdentifier_of_mem_parts h name hmem) c hc)

/-- The statement for an index without a name creates one of the default name. -/
theorem createdName_of_build (hname : s.name = none) (h : s.build = .ok q) :
    createdName q.sql = some s.indexName.toList := by
  obtain ⟨-, hcolumns, -, -, method, -, rfl⟩ := of_build h
  obtain ⟨front, rest, htext, hfront⟩ := s.exists_front method
  have hchars := toList_indexName hname hcolumns
  -- a default name begins with a lower-case letter, so it is not taken for the ON behind it
  have hhead : s.indexName.toList.head? = some 'i' := by rw [hchars]; rfl
  refine createdName_eq htext hfront ?_ ?_ (isBlank_of_mem_indexName hname h)
  · intro hempty
    rw [hempty] at hhead
    cases hhead
  · intro hon
    rw [hon] at hhead
    cases hhead

/-! ## Names and pieces -/

/-- Default names tell the pieces of table and columns, and nothing more. -/
theorem indexName_eq_iff (hname : s.name = none) (hname' : s'.name = none)
    (hcolumns : s.columns ≠ []) (hcolumns' : s'.columns ≠ []) :
    s.indexName.toList = s'.indexName.toList ↔ s.pieces = s'.pieces := by
  have hpieces : ∀ t : Index,
      t.pieces = (['_'].intercalate (t.parts.map String.toList)).splitOn '_' := by
    intro t
    rw [Text.splitOn_intercalate (by simp [parts]), pieces, List.flatMap_map]
  rw [toList_indexName hname hcolumns, toList_indexName hname' hcolumns', List.append_cancel_left_eq,
    hpieces, hpieces, Text.splitOn_inj]

/-- Pieces and the number of underscores in each name make up the names. -/
theorem parts_eq_iff :
    s.parts = s'.parts ↔ s.pieces = s'.pieces ∧ s.underscores = s'.underscores := by
  constructor
  · intro h
    rw [pieces, underscores, h]
    exact ⟨rfl, rfl⟩
  · rintro ⟨hpieces, hunderscores⟩
    -- a name has one piece more than underscores, so the pieces fall apart into those of each name
    have hlengths : ∀ t : Index, (t.parts.map fun name => name.toList.splitOn '_').map List.length =
        t.underscores.map (· + 1) := by
      intro t
      rw [underscores, List.map_map, List.map_map]
      exact List.map_congr_left fun name _ => Text.length_splitOn '_' name.toList
    have hsplit : (s.parts.map fun name => name.toList.splitOn '_') =
        s'.parts.map fun name => name.toList.splitOn '_' := by
      refine List.eq_iff_flatten_eq.mpr ⟨hpieces, ?_⟩
      rw [hlengths, hlengths, hunderscores]
    have hinjective : Function.Injective fun name : String => name.toList.splitOn '_' :=
      fun a b hab => String.toList_inj.mp (Text.splitOn_inj.mp hab)
    exact (List.map_inj_right hinjective).mp hsplit

/-- **Default names agree exactly on equal pieces.**  Two indexes without names of their own are
given the same name if and only if their tables and columns, cut at every underscore, are the same
pieces.  If the names of one have as many underscores as those of the other, the same name is given
only to the same table and columns. -/
theorem default_names_agree_iff (hname : s.name = none) (hname' : s'.name = none)
    (h : s.build = .ok q) (h' : s'.build = .ok q') :
    ∃ name name', createdName q.sql = some name ∧ createdName q'.sql = some name' ∧
      (name = name' ↔ s.pieces = s'.pieces) ∧
      (name = name' ∧ s.underscores = s'.underscores ↔
        s.table = s'.table ∧ s.columns = s'.columns) := by
  obtain ⟨-, hcolumns, -⟩ := of_build h
  obtain ⟨-, hcolumns', -⟩ := of_build h'
  have hpieces := indexName_eq_iff hname hname' hcolumns hcolumns'
  refine ⟨_, _, createdName_of_build hname h, createdName_of_build hname' h', hpieces, ?_⟩
  rw [hpieces, ← parts_eq_iff, parts, parts, List.cons_eq_cons]

/-- Two columns of one table are told apart by as many underscores. -/
theorem default_names_agree_iff_of_columns :
    let s : Index := { table := "users", columns := ["first_name"] }
    let s' : Index := { table := "users", columns := ["last_name"] }
    ∃ q q', s.name = none ∧ s'.name = none ∧ s.build = .ok q ∧ s'.build = .ok q' ∧
      ∃ name name', createdName q.sql = some name ∧ createdName q'.sql = some name' ∧
        (name = name' ↔ s.pieces = s'.pieces) ∧
        (name = name' ∧ s.underscores = s'.underscores ↔
          s.table = s'.table ∧ s.columns = s'.columns) := by
  intro s s'
  have hmethod : IndexMethod.check "btree" = .ok .btree := by decide
  have hbuild := build_of_isIdentifier (s := s) (by decide) (by decide) rfl hmethod
  have hbuild' := build_of_isIdentifier (s := s') (by decide) (by decide) rfl hmethod
  exact ⟨_, _, rfl, rfl, hbuild, hbuild', default_names_agree_iff rfl rfl hbuild hbuild'⟩

/-- An underscore within a column is taken for one between columns. -/
theorem default_names_collide :
    let s : Index := { table := "users", columns := ["first_name"] }
    let s' : Index := { table := "users", columns := ["first", "name"] }
    s.name = none ∧ s'.name = none ∧ ∃ q q', s.build = .ok q ∧ s'.build = .ok q' ∧
      ¬(s.table = s'.table ∧ s.columns = s'.columns) ∧
      createdName q.sql = some "idx_users_first_name".toList ∧
      createdName q'.sql = some "idx_users_first_name".toList := by
  intro s s'
  have hmethod : IndexMethod.check "btree" = .ok .btree := by decide
  have hbuild := build_of_isIdentifier (s := s) (by decide) (by decide) rfl hmethod
  have hbuild' := build_of_isIdentifier (s := s') (by decide) (by decide) rfl hmethod
  refine ⟨rfl, rfl, _, _, hbuild, hbuild', by decide, ?_, ?_⟩
  · rw [createdName_of_build rfl hbuild]
    rfl
  · rw [createdName_of_build rfl hbuild']
    rfl

end SchemaKit.Index
