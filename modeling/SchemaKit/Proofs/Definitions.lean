import Mathlib
import SchemaKit.Proofs.Built
import SchemaKit.Proofs.Inert
import SchemaKit.Text.Search

/-!
# Definitions that stay closed

Statements that define indexes, hypertables, policies and compression hold texts of the caller that
no parameter can bind.  Whatever passes the checks is inert, so the special characters of such a
statement are those that its builder writes: one pair of parentheses, one dollar sign for each bound
value, and the quotes around its own literals.  Nothing of the caller ends a literal or the
statement or begins a comment (`Definition.built_isSealed`).
-/

namespace SchemaKit

open Sql Statement

/-! ## Quotes and placeholders -/

namespace Sql

/-- Every second of some things. -/
def seconds {α : Type} : List α → List α
  | _ :: b :: rest => b :: seconds rest
  | _ => []

/-- The texts between the first and the second quote, the third and the fourth, and so on. -/
def quoted (text : String) : List (List Char) :=
  seconds (text.toList.splitOn '\'')

theorem quoted_of_not_mem {text : String} (h : '\'' ∉ text.toList) : quoted text = [] := by
  unfold quoted
  rw [List.splitOn_eq_singleton h]
  rfl

/-- A literal is read off, whatever follows. -/
theorem quoted_literal {front inner : String} (hfront : '\'' ∉ front.toList)
    (hinner : '\'' ∉ inner.toList) (rest : String) :
    quoted (front ++ ("'" ++ (inner ++ ("'" ++ rest)))) = inner.toList :: quoted rest := by
  have hchars : (front ++ ("'" ++ (inner ++ ("'" ++ rest)))).toList =
      front.toList ++ '\'' :: (inner.toList ++ '\'' :: rest.toList) := by
    simp only [String.toList_append]
    rfl
  unfold quoted
  rw [hchars, List.splitOn_append_cons_self_of_not_mem hfront,
    List.splitOn_append_cons_self_of_not_mem hinner, seconds]

/-- The numbers of the placeholders of a text. -/
def placeholders (text : String) : List Nat :=
  (marks text).filterMap Mark.number?

theorem placeholders_of_not_mem {text : String} (h : '$' ∉ text.toList) :
    placeholders text = [] := by
  have hscan : ∀ cs : List Char, '$' ∉ cs → (Mark.scan cs).filterMap Mark.number? = [] := by
    intro cs hcs
    induction cs with
    | nil => rfl
    | cons c rest ih =>
      rw [List.mem_cons, not_or] at hcs
      have hfirst : (Mark.first? c rest).toList.filterMap Mark.number? = [] := by
        unfold Mark.first?
        rw [if_neg (Ne.symm hcs.1)]
        split_ifs <;> rfl
      rw [Mark.scan, List.filterMap_append, hfirst, ih hcs.2, List.append_nil]
  exact hscan _ h

theorem placeholders_append {a b : String} (h : ∀ c ∈ b.toList.head?, c.isDigit = false) :
    placeholders (a ++ b) = placeholders a ++ placeholders b := by
  unfold placeholders
  rw [marks_append h, List.filterMap_append]

/-- A special character stands in a text exactly if it is one of the special ones in it. -/
theorem mem_specials {text : String} {c : Char} (hc : isSpecial c = true) :
    c ∈ specials text ↔ c ∈ text.toList := by
  unfold specials
  rw [List.mem_filter, and_iff_left hc]

theorem IsInert.not_mem {text : String} (h : IsInert text) {c : Char} (hc : isSpecial c = true) :
    c ∉ text.toList := by
  rw [← mem_specials hc, h]
  exact List.not_mem_nil

end Sql

/-! ## Sealed statements -/

/-- A statement that nothing breaks out of.  Its literals hold just the given texts, and all quotes
are those around them; no character and no pair of characters in it ends it early or begins a
comment; there is one pair of parentheses, and there is one placeholder for each bound value. -/
structure Statement.IsSealed (q : Statement) (literals : List String) : Prop where
  ends : ∀ c ∈ [';', '"', '\\'], c ∉ q.sql.toList
  lineComment : Text.contains q.sql "--" = false
  blockComment : Text.contains q.sql "/*" = false
  quotes : q.sql.toList.count '\'' = 2 * literals.length
  quoted : Sql.quoted q.sql = literals.map String.toList
  opening : q.sql.toList.count '(' = 1
  closing : q.sql.toList.count ')' = 1
  placeholders : Sql.placeholders q.sql = List.range' 1 q.params.length

/-- The special characters of a definition: in parentheses a dollar sign for each bound value, then
the quotes around literals. -/
def skeleton (params literals : Nat) : List Char :=
  '(' :: (List.replicate params '$' ++ (List.replicate (2 * literals) '\'' ++ [')']))

/-- **What the special characters tell.** -/
theorem Statement.isSealed_of_specials {q : Statement} {literals : List String}
    (hspecials : specials q.sql = skeleton q.params.length literals.length)
    (hquoted : Sql.quoted q.sql = literals.map String.toList)
    (hplaceholders : Sql.placeholders q.sql = List.range' 1 q.params.length) :
    q.IsSealed literals := by
  have hcount : ∀ c, isSpecial c = true →
      q.sql.toList.count c = (skeleton q.params.length literals.length).count c := by
    intro c hc
    rw [← hspecials, specials, List.count_filter hc]
  have habsent : ∀ c, isSpecial c = true → c ≠ '(' → c ≠ '$' → c ≠ '\'' → c ≠ ')' →
      c ∉ q.sql.toList := by
    intro c hc hopening hdollar hquote hclosing
    rw [← mem_specials hc, hspecials]
    simp [skeleton, List.mem_replicate, hopening, hdollar, hquote, hclosing]
  have hcontains : ∀ part : String, ∀ c ∈ part.toList, c ∉ q.sql.toList →
      Text.contains q.sql part = false := by
    intro part c hc hnot
    rw [← Bool.not_eq_true, Text.contains_iff]
    exact fun hpart => hnot (hpart.subset hc)
  refine ⟨?ends, ?line, ?block, ?quotes, hquoted, ?opening, ?closing, hplaceholders⟩
  case ends =>
    simp only [List.forall_mem_cons]
    exact ⟨habsent _ (by decide) (by decide) (by decide) (by decide) (by decide),
      habsent _ (by decide) (by decide) (by decide) (by decide) (by decide),
      habsent _ (by decide) (by decide) (by decide) (by decide) (by decide),
      List.forall_mem_nil _⟩
  case line =>
    exact hcontains "--" '-' (by decide)
      (habsent _ (by decide) (by decide) (by decide) (by decide) (by decide))
  case block =>
    exact hcontains "/*" '/' (by decide)
      (habsent _ (by decide) (by decide) (by decide) (by decide) (by decide))
  case quotes =>
    rw [hcount _ (by decide)]
    simp [skeleton, List.count_append, List.count_replicate]
  case opening =>
    rw [hcount _ (by decide)]
    simp [skeleton, List.count_append, List.count_replicate]
  case closing =>
    rw [hcount _ (by decide)]
    simp [skeleton, List.count_append, List.count_replicate]

/-! ## Builders -/

section Builders

variable {q : Statement}

theorem isInert_of_names {ns : List String} (h : names ns = .ok ()) : ∀ n ∈ ns, IsInert n :=
  fun n hn => isInert_of_isIdentifier (names_eq_ok_iff.mp h n hn)

theorem isInert_of_fragment {text interval : String}
    (h : fragment (Interval.check text) = .ok interval) :
    interval = Text.trim text ∧ IsInert interval :=
  isInert_of_interval (fragment_eq_ok_iff.mp h)

theorem isInert_qualified {schema table : String} (hschema : IsInert schema)
    (htable : IsInert table) : IsInert (qualified schema table) :=
  (hschema.append (by rfl)).append htable

/-! ### Indexes -/

theorem Index.isInert_indexName {s : Index} (htable : IsInert s.table)
    (hcolumns : ∀ c ∈ s.columns, IsInert c) (hname : ∀ n ∈ s.name, IsInert n) :
    IsInert s.indexName := by
  unfold indexName
  cases h : s.name with
  | some name => exact hname name (by rw [h]; rfl)
  | none =>
    have hfront : IsInert "idx_" := by rfl
    have hsep : IsInert "_" := by rfl
    exact ((hfront.append htable).append hsep).append (hsep.intercalate hcolumns)

theorem Index.isSealed_of_build {s : Index} (h : s.build = .ok q) : q.IsSealed [] := by
  obtain ⟨htable, -, hcolumns, hname, method, -, rfl⟩ := of_build h
  have hnames := isInert_of_names htable
  have hindex : IsInert s.indexName := by
    refine isInert_indexName (hnames _ (by simp)) (isInert_of_names hcolumns) fun n hn => ?_
    exact isInert_of_names hname n (Option.mem_toList.mpr hn)
  have hqualified := isInert_qualified (hnames s.schema (by simp)) (hnames s.table (by simp))
  have hlist : IsInert (commaList s.columns) :=
    IsInert.intercalate (by rfl) (isInert_of_names hcolumns)
  have hspecials : specials (s.text method) = skeleton 0 0 := by
    have hunique : specials (if s.unique then "UNIQUE " else "") = [] := by
      cases s.unique <;> rfl
    have hexists : specials (if s.ifNotExists then "IF NOT EXISTS " else "") = [] := by
      cases s.ifNotExists <;> rfl
    have hmethod : specials method.name = [] := isInert_method method
    unfold IsInert at hindex hqualified hlist
    delta text
    simp only [specials_append, hunique, hexists, hindex, hqualified, hmethod, hlist]
    decide
  have hnot : ∀ c ∈ ['\'', '$'], c ∉ (s.text method).toList := by
    intro c hc
    have hspecial : ∀ c ∈ ['\'', '$'], isSpecial c = true ∧ c ∉ skeleton 0 0 :=
      List.forall_mem_cons.mpr ⟨by decide, List.forall_mem_singleton.mpr (by decide)⟩
    rw [← mem_specials (hspecial c hc).1, hspecials]
    exact (hspecial c hc).2
  exact isSealed_of_specials hspecials (quoted_of_not_mem (hnot _ (by simp)))
    (placeholders_of_not_mem (hnot _ (by simp)))

/-! ### Hypertables and policies -/

/-- A call with one interval among its arguments. -/
theorem isSealed_of_call {front interval rest : String} {params : List Value} {n : Nat}
    (hparams : params.length = n) (hfront : specials front = '(' :: List.replicate n '$')
    (hplaceholders : Sql.placeholders front = List.range' 1 n)
    (hinterval : IsInert interval) (hrest : specials rest = [')']) :
    IsSealed ⟨front ++ (intervalLiteral interval ++ rest), params⟩ [interval] := by
  subst hparams
  have hinert : specials interval = [] := hinterval
  have hquote : ∀ text, '\'' ∉ specials text → '\'' ∉ text.toList := fun text h =>
    (mem_specials (by decide)).not.mp h
  have hdollar : ∀ text, '$' ∉ specials text → '$' ∉ text.toList := fun text h =>
    (mem_specials (by decide)).not.mp h
  have hliteral : specials (intervalLiteral interval) = ['\'', '\''] := by
    have hopening : specials "INTERVAL '" = ['\''] := by decide
    have hclosing : specials "'" = ['\''] := by decide
    unfold intervalLiteral
    rw [specials_append, specials_append, hinert, hopening, hclosing]
    rfl
  -- the only quotes are those of the interval, with the first one right in front of it
  have htext : front ++ (intervalLiteral interval ++ rest) =
      (front ++ "INTERVAL ") ++ ("'" ++ (interval ++ ("'" ++ rest))) := by
    have hkeyword : "INTERVAL '" = "INTERVAL " ++ "'" := by decide
    unfold intervalLiteral
    rw [hkeyword]
    simp only [String.append_assoc]
  refine isSealed_of_specials ?_ ?_ ?_
  · rw [specials_append, specials_append, hfront, hliteral, hrest]
    simp [skeleton]
  · rw [htext, quoted_literal, quoted_of_not_mem, List.map_singleton]
    · exact hquote _ (by rw [hrest]; decide)
    · refine hquote _ ?_
      have hkeyword : specials "INTERVAL " = [] := by decide
      rw [specials_append, hfront, hkeyword]
      simp [List.mem_replicate]
    · exact hquote _ (by rw [hinert]; exact List.not_mem_nil)
  · have hhead : ∀ c ∈ (intervalLiteral interval ++ rest).toList.head?, c.isDigit = false := by
      have hchars : (intervalLiteral interval ++ rest).toList.head? = some 'I' := by
        unfold intervalLiteral
        simp only [String.toList_append, List.append_assoc]
        rfl
      intro c hc
      rw [hchars] at hc
      obtain rfl := Option.some.inj hc
      rfl
    -- all placeholders are among the arguments in front of the interval
    have hnone : '$' ∉ (intervalLiteral interval ++ rest).toList := by
      refine hdollar _ ?_
      rw [specials_append, hliteral, hrest]
      decide
    rw [placeholders_append hhead, hplaceholders, placeholders_of_not_mem hnone, List.append_nil]

theorem Hypertable.isSealed_of_build {s : Hypertable} (h : s.build = .ok q) :
    q.IsSealed [Text.trim s.chunkInterval] := by
  obtain ⟨-, interval, hinterval, rfl⟩ := of_build h
  obtain ⟨rfl, hinert⟩ := isInert_of_fragment hinterval
  have hboolean : ∀ b, specials (boolean b) = [] := fun b => by cases b <;> rfl
  have hrest : specials (", if_not_exists => " ++ (boolean s.ifNotExists ++
      (", migrate_data => " ++ (boolean s.migrateData ++ ")")))) = [')'] := by
    simp only [specials_append, hboolean]
    decide
  have htext : s.text (Text.trim s.chunkInterval) =
      "SELECT * FROM create_hypertable($1::regclass, $2::name, chunk_time_interval => " ++
        (intervalLiteral (Text.trim s.chunkInterval) ++ (", if_not_exists => " ++
          (boolean s.ifNotExists ++ (", migrate_data => " ++ (boolean s.migrateData ++ ")"))))) := by
    delta text
    simp only [String.append_assoc]
  rw [htext]
  exact isSealed_of_call (n := 2) rfl (by decide +kernel) (by decide +kernel) hinert hrest

theorem Policy.isSealed_of_build {p : Policy} {schema table age : String}
    (h : p.build schema table age = .ok q) : q.IsSealed [Text.trim age] := by
  obtain ⟨-, interval, hinterval, rfl⟩ := of_build h
  obtain ⟨rfl, hinert⟩ := isInert_of_fragment hinterval
  have htext : p.text (Text.trim age) =
      ("SELECT " ++ p.function ++ "($1::regclass, " ++ p.argument ++ " => ") ++
        (intervalLiteral (Text.trim age) ++ ")") := by
    delta text
    simp only [String.append_assoc]
  rw [htext]
  refine isSealed_of_call (n := 1) rfl ?_ ?_ hinert (by decide)
  · cases p <;> decide +kernel
  · cases p <;> decide +kernel

/-! ### Compression -/

namespace Compression

/-- The lists of a definition that are not empty, each with commas between its entries. -/
def literals (s : Compression) : List String :=
  ([s.segmentBy, s.orderBy].filter fun entries => !entries.isEmpty).map (",".intercalate ·)

/-- What a setting, if there is one, adds to a text. -/
def extend (key : String) (entries : List String) (rest : String) : String :=
  if entries.isEmpty then rest
  else ", " ++ (key ++ " = " ++ ("'" ++ (",".intercalate entries ++ ("'" ++ rest))))

variable {key : String} {entries : List String}

theorem specials_extend (hkey : IsInert key) (hentries : ∀ entry ∈ entries, IsInert entry)
    (rest : String) : specials (extend key entries rest) =
      List.replicate (if entries.isEmpty then 0 else 2) '\'' ++ specials rest := by
  unfold extend
  by_cases hempty : entries.isEmpty = true
  · rw [if_pos hempty, if_pos hempty]
    rfl
  · have hlist : IsInert (",".intercalate entries) := IsInert.intercalate (by rfl) hentries
    have hcomma : specials ", " = [] := by decide
    have hequals : specials " = " = [] := by decide
    have hquote : specials "'" = ['\''] := by decide
    unfold IsInert at hkey hlist
    rw [if_neg hempty, if_neg hempty]
    simp only [specials_append, hkey, hlist, hcomma, hequals, hquote]
    rfl

theorem quoted_extend (hkey : IsInert key) (hentries : ∀ entry ∈ entries, IsInert entry)
    {front : String} (hfront : '\'' ∉ front.toList) (rest : String) :
    quoted (front ++ extend key entries rest) =
      if entries.isEmpty then quoted (front ++ rest)
      else (",".intercalate entries).toList :: quoted rest := by
  unfold extend
  by_cases hempty : entries.isEmpty = true
  · rw [if_pos hempty, if_pos hempty]
  · have hlist : IsInert (",".intercalate entries) := IsInert.intercalate (by rfl) hentries
    have hsplit : front ++ (", " ++ (key ++ " = " ++
        ("'" ++ (",".intercalate entries ++ ("'" ++ rest))))) =
        (front ++ ", " ++ key ++ " = ") ++ ("'" ++ (",".intercalate entries ++ ("'" ++ rest))) := by
      simp only [String.append_assoc]
    have hbefore : '\'' ∉ (front ++ ", " ++ key ++ " = ").toList := by
      have hnone : '\'' ∉ key.toList := hkey.not_mem (by decide)
      simp only [String.toList_append, List.mem_append, hfront, hnone, false_or, or_false]
      decide
    rw [if_neg hempty, if_neg hempty, hsplit, quoted_literal hbefore (hlist.not_mem (by decide))]

theorem text_eq (s : Compression) : s.text =
    ("ALTER TABLE " ++ qualified s.schema s.table ++ " SET (timescaledb.compress") ++
      extend "timescaledb.compress_segmentby" s.segmentBy
        (extend "timescaledb.compress_orderby" s.orderBy ")") := by
  have hparenthesis : " SET (timescaledb.compress" = " SET (" ++ "timescaledb.compress" := by decide
  have hquote : " = '" = " = " ++ "'" := by decide
  have hcons : ∀ a b rest, commaList (a :: b :: rest) = a ++ ", " ++ commaList (b :: rest) :=
    fun a b rest => String.intercalate_cons_cons
  have hsingle : ∀ a, commaList [a] = a := fun a => String.intercalate_singleton
  delta text
  unfold extend setting
  rw [hparenthesis, hquote]
  by_cases hsegments : s.segmentBy.isEmpty = true <;> by_cases horders : s.orderBy.isEmpty = true
  · simp only [if_pos hsegments, if_pos horders, List.append_nil, hsingle, String.append_assoc]
  · simp only [if_pos hsegments, if_neg horders, List.nil_append, hcons, hsingle,
      String.append_assoc]
  · simp only [if_neg hsegments, if_pos horders, List.append_nil, hcons, hsingle,
      String.append_assoc]
  · simp only [if_neg hsegments, if_neg horders, List.singleton_append, hcons, hsingle,
      String.append_assoc]

theorem isSealed_of_build {s : Compression} (h : s.build = .ok q) : q.IsSealed s.literals := by
  obtain ⟨htable, hsegments, horders, rfl⟩ := of_build h
  have hnames := isInert_of_names htable
  have hsegmentBy := isInert_of_names hsegments
  have horderBy := isInert_of_checkOrders (fragment_eq_ok_iff.mp horders)
  have hsegmentKey : IsInert "timescaledb.compress_segmentby" := by rfl
  have horderKey : IsInert "timescaledb.compress_orderby" := by rfl
  have hfront : specials ("ALTER TABLE " ++ qualified s.schema s.table ++
      " SET (timescaledb.compress") = ['('] := by
    have hqualified := isInert_qualified (hnames s.schema (by simp)) (hnames s.table (by simp))
    unfold IsInert at hqualified
    rw [specials_append, specials_append, hqualified]
    decide
  have hquote : ∀ text, '\'' ∉ specials text → '\'' ∉ text.toList := fun text h =>
    (mem_specials (by decide)).not.mp h
  have hspecials : specials s.text = skeleton 0 s.literals.length := by
    rw [text_eq, specials_append, hfront, specials_extend hsegmentKey hsegmentBy,
      specials_extend horderKey horderBy]
    unfold literals
    cases s.segmentBy <;> cases s.orderBy <;> rfl
  refine isSealed_of_specials hspecials ?_ (placeholders_of_not_mem ?_)
  · have hnone : '\'' ∉ ("ALTER TABLE " ++ qualified s.schema s.table ++
        " SET (timescaledb.compress").toList := hquote _ (by rw [hfront]; decide)
    have horder : ∀ front : String, '\'' ∉ front.toList →
        quoted (front ++ extend "timescaledb.compress_orderby" s.orderBy ")") =
          if s.orderBy.isEmpty then [] else [(",".intercalate s.orderBy).toList] := by
      intro front hnone
      have hclosed : '\'' ∉ (front ++ ")").toList := by
        rw [String.toList_append, List.mem_append, not_or]
        exact ⟨hnone, by decide⟩
      rw [quoted_extend horderKey horderBy hnone, quoted_of_not_mem hclosed]
      rfl
    have hafter := horder "" List.not_mem_nil
    rw [String.empty_append] at hafter
    rw [text_eq, quoted_extend hsegmentKey hsegmentBy hnone, horder _ hnone, hafter]
    unfold literals
    cases s.segmentBy <;> cases s.orderBy <;> rfl
  · rw [← mem_specials (by decide), hspecials]
    simp [skeleton, List.mem_replicate]

end Compression

end Builders

/-! ## Every definition -/

/-- A definition with all that its builder is given. -/
inductive Definition where
  | index (s : Index)
  | hypertable (s : Hypertable)
  | policy (p : Policy) (schema table interval : String)
  | compression (s : Compression)

namespace Definition

def build : Definition → Except BuildError Statement
  | index s => s.build
  | hypertable s => s.build
  | policy p schema table interval => p.build schema table interval
  | compression s => s.build

/-- What a builder puts into literals: nothing for an index, the interval without the blanks around
it for a hypertable or a policy, and each list that is not empty for compression. -/
def literals : Definition → List String
  | index _ => []
  | hypertable s => [Text.trim s.chunkInterval]
  | policy _ _ _ interval => [Text.trim interval]
  | compression s => s.literals

/-- **Nothing breaks out of a definition.**  Whatever texts its builder is given, a statement that
it yields holds just its own literals, quotes, parentheses and placeholders, and nothing in it ends
the statement early or begins a comment. -/
theorem built_isSealed {d : Definition} {q : Statement} (h : d.build = .ok q) :
    q.IsSealed d.literals := by
  cases d with
  | index s => exact Index.isSealed_of_build h
  | hypertable s => exact Hypertable.isSealed_of_build h
  | policy p schema table interval => exact Policy.isSealed_of_build h
  | compression s => exact Compression.isSealed_of_build h

/-- Blanks and letters beyond ASCII in an entry of an order: a blank that does not break lines, a
long s and a ligature of s and t. -/
theorem built_isSealed_of_order_beyond_ascii :
    let d : Definition := .compression {
      table := "t", segmentBy := ["a", "b"], orderBy := ["x\u00A0de\u017Fc NULLS LA\uFB06", "y"] }
    let q : Statement := ⟨"ALTER TABLE public.t SET (timescaledb.compress, " ++
      "timescaledb.compress_segmentby = 'a,b', " ++
      "timescaledb.compress_orderby = 'x\u00A0de\u017Fc NULLS LA\uFB06,y')", []⟩
    d.build = .ok q ∧ q.IsSealed d.literals := by
  intro d q
  have hbuild : d.build = .ok q := by
    simp only [d, q]
    cbv
  exact ⟨hbuild, built_isSealed hbuild⟩

end Definition

end SchemaKit
