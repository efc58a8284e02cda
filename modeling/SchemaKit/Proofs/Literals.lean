import SchemaKit.Sql.Literal

/-!
# Reading literals back

The scanner reads what `quoteLiteral` writes and nothing else: it finds a certain text in front of a
certain rest exactly if the literal of that text stands there and no quote comes next
(`scanLiteral_eq_some_iff`).  So a text as a literal neither ends before its last quote nor is taken
for another text (`literal_reads_back`).
-/

namespace SchemaKit.Sql

variable {c : Char} {s cs read rest after : List Char}

/-! ## One character -/

theorem scanLiteralBody_quotes (cs : List Char) :
    scanLiteralBody ('\'' :: '\'' :: cs) =
      (scanLiteralBody cs).map fun r => ('\'' :: r.1, r.2) := rfl

theorem scanLiteralBody_end (h : rest.head? ≠ some '\'') :
    scanLiteralBody ('\'' :: rest) = some ([], rest) := by
  rw [scanLiteralBody, if_pos rfl]
  rintro cs - rfl
  exact h rfl

theorem scanLiteralBody_cons (h : c ≠ '\'') (cs : List Char) :
    scanLiteralBody (c :: cs) = (scanLiteralBody cs).map fun r => (c :: r.1, r.2) := by
  rw [scanLiteralBody, if_neg h]
  rintro cs' rfl
  exact absurd rfl h

theorem doubleQuotes_quote (s : List Char) :
    doubleQuotes ('\'' :: s) = '\'' :: '\'' :: doubleQuotes s := rfl

theorem doubleQuotes_of_ne (h : c ≠ '\'') (s : List Char) :
    doubleQuotes (c :: s) = c :: doubleQuotes s := by
  rw [doubleQuotes, if_neg h]

/-! ## The inside of a literal -/

/-- **Doubled quotes are passed**: whatever follows a text with its quotes doubled, the scanner reads
that text and goes on behind it. -/
theorem scanLiteralBody_append (s cs : List Char) :
    scanLiteralBody (doubleQuotes s ++ cs) =
      (scanLiteralBody cs).map fun r => (s ++ r.1, r.2) := by
  induction s with
  | nil => exact Option.map_id'.symm
  | cons c s ih =>
    by_cases hc : c = '\''
    · rw [hc, doubleQuotes_quote, List.cons_append, List.cons_append, scanLiteralBody_quotes, ih,
        Option.map_map]
      rfl
    · rw [doubleQuotes_of_ne hc, List.cons_append, scanLiteralBody_cons hc, ih, Option.map_map]
      rfl

/-- The scanner stops only at a quote that no other follows. -/
theorem of_scanLiteralBody (h : scanLiteralBody cs = some (read, after)) :
    cs = doubleQuotes read ++ '\'' :: after ∧ after.head? ≠ some '\'' := by
  fun_induction scanLiteralBody cs generalizing read after with
  | case1 => cases h
  | case2 cs ih =>
    obtain ⟨r, hr, h⟩ := Option.map_eq_some_iff.mp h
    obtain ⟨rfl, rfl⟩ := Prod.mk.inj h
    obtain ⟨hcs, hafter⟩ := ih hr
    exact ⟨by rw [doubleQuotes_quote, hcs]; rfl, hafter⟩
  | case3 cs hsingle =>
    obtain ⟨rfl, rfl⟩ := Prod.mk.inj (Option.some.inj h)
    -- this is the single quote, and what the scanner has passed in front of it is doubled
    refine ⟨rfl, fun hhead => ?_⟩
    obtain ⟨cs', rfl⟩ := List.head?_eq_some_iff.mp hhead
    exact hsingle cs' rfl rfl
  | case4 c cs hsingle hc ih =>
    obtain ⟨r, hr, h⟩ := Option.map_eq_some_iff.mp h
    obtain ⟨rfl, rfl⟩ := Prod.mk.inj h
    obtain ⟨hcs, hafter⟩ := ih hr
    exact ⟨by rw [doubleQuotes_of_ne hc, hcs]; rfl, hafter⟩

/-! ## Literals -/

theorem toList_quoteLiteral_append (s : String) (rest : List Char) :
    (quoteLiteral s).toList ++ rest = '\'' :: (doubleQuotes s.toList ++ '\'' :: rest) := by
  rw [quoteLiteral, String.toList_ofList, List.cons_append, List.append_assoc]
  rfl

/-- **The scanner reads literals and nothing else.**  A quote right behind a literal would go on
with it. -/
theorem scanLiteral_eq_some_iff {s : String} :
    scanLiteral cs = some (s.toList, rest) ↔
      cs = (quoteLiteral s).toList ++ rest ∧ rest.head? ≠ some '\'' := by
  rw [toList_quoteLiteral_append]
  constructor
  · intro h
    unfold scanLiteral at h
    split at h
    · obtain ⟨rfl, hrest⟩ := of_scanLiteralBody h
      exact ⟨rfl, hrest⟩
    · cases h
  · rintro ⟨rfl, hrest⟩
    rw [scanLiteral, scanLiteralBody_append, scanLiteralBody_end hrest, Option.map_some,
      List.append_nil]

/-- Whatever follows a literal, the scanner does not stop before its last quote. -/
theorem of_scanLiteral_append {s : String}
    (h : scanLiteral ((quoteLiteral s).toList ++ rest) = some (read, after)) :
    s.toList <+: read ∧ after <:+ rest := by
  rw [toList_quoteLiteral_append, scanLiteral, scanLiteralBody_append] at h
  obtain ⟨r, hr, h⟩ := Option.map_eq_some_iff.mp h
  obtain ⟨rfl, rfl⟩ := Prod.mk.inj h
  obtain ⟨hrest, hafter⟩ := of_scanLiteralBody hr
  have hsuffix : r.2 <:+ '\'' :: rest := ⟨doubleQuotes r.1 ++ ['\''], by
    rw [hrest, List.append_assoc, List.singleton_append]⟩
  refine ⟨List.prefix_append _ _, (List.suffix_cons_iff.mp hsuffix).resolve_left fun heq => ?_⟩
  -- the scan would have ended at the last quote with that same quote behind it
  exact hafter (by rw [heq]; rfl)

theorem quoteLiteral_inj {s t : String} : quoteLiteral s = quoteLiteral t ↔ s = t := by
  constructor
  · intro h
    have hs : scanLiteral ((quoteLiteral s).toList ++ []) = some (s.toList, []) :=
      scanLiteral_eq_some_iff.mpr ⟨rfl, nofun⟩
    have ht : scanLiteral ((quoteLiteral t).toList ++ []) = some (t.toList, []) :=
      scanLiteral_eq_some_iff.mpr ⟨rfl, nofun⟩
    rw [h, ht, Option.some_inj, Prod.mk.injEq] at hs
    exact String.toList_injective hs.1.symm
  · rintro rfl
    rfl

/-- **A text as a literal reads back.**  At the head of a longer text it is read to its end, as the
text it was made of, exactly if no quote comes next.  Whatever comes next, it is not left before its
end: what is read begins with that text, and what is left is part of what comes next.  And no two
texts have one literal. -/
theorem literal_reads_back (s : String) (rest : List Char) :
    (scanLiteral ((quoteLiteral s).toList ++ rest) = some (s.toList, rest) ↔
      rest.head? ≠ some '\'') ∧
    (∀ read after, scanLiteral ((quoteLiteral s).toList ++ rest) = some (read, after) →
      s.toList <+: read ∧ after <:+ rest) ∧
    ∀ t, quoteLiteral t = quoteLiteral s ↔ t = s := by
  refine ⟨?_, fun read after => of_scanLiteral_append, fun t => quoteLiteral_inj⟩
  rw [scanLiteral_eq_some_iff]
  exact and_iff_right rfl

/-- Quotes at both ends of the text, and a quote that goes on with the literal. -/
theorem literal_reads_back_of_quotes :
    scanLiteral ((quoteLiteral "'a''").toList ++ ");".toList) =
        some ("'a''".toList, ");".toList) ∧
      scanLiteral ((quoteLiteral "a").toList ++ "'b' c".toList) =
        some ("a'b".toList, " c".toList) ∧
      "a".toList <+: "a'b".toList ∧ " c".toList <:+ "'b' c".toList := by
  have hread : scanLiteral ((quoteLiteral "a").toList ++ "'b' c".toList) =
      some ("a'b".toList, " c".toList) := by decide
  exact ⟨(literal_reads_back "'a''" ");".toList).1.mpr (by decide), hread,
    (literal_reads_back "a" "'b' c".toList).2.1 _ _ hread⟩

end SchemaKit.Sql
