import SchemaKit.Migration.Section
import SchemaKit.Proofs.Pieces

/-!
# Sections line by line

A section can be read off the lines of a text: those behind the first marker line of its kind and in
front of the next marker line of either kind (`Section.ofLines`).  `Section.extract`, which goes
through the text character by character, gives the same on every text
(`Section.extract_eq_ofLines`), and what it cuts out is a stretch of the text.
-/

namespace SchemaKit.Section

def word : Section → List Char
  | up => ['U', 'P']
  | down => ['D', 'O', 'W', 'N']

/-- A marker line of a kind: two hyphens, spaces and tabs, the word of the kind in any case of
ASCII, spaces and tabs, and at most one carriage return. -/
def IsMarker (kind : Section) (line : List Char) : Prop :=
  ∃ before name after ending, line = '-' :: '-' :: (before ++ (name ++ (after ++ ending))) ∧
    (∀ c ∈ before, isPad c = true) ∧ name.map Char.toUpper = kind.word ∧
    (∀ c ∈ after, isPad c = true) ∧ (ending = [] ∨ ending = ['\r'])

/-- What stands behind a line: nothing, or a line feed and more. -/
def IsRest (rest : List Char) : Prop :=
  ∀ c ∈ rest.head?, c = '\n'

theorem isRest_nil : IsRest [] := fun c hc => by cases hc

/-! ## Words -/

/-- No case turns a space, a tab or a line feed into a letter of a word. -/
theorem not_mem_of_toUpper {kind : Section} {name : List Char}
    (h : name.map Char.toUpper = kind.word) : ∀ c ∈ [' ', '\t', '\n'], c ∉ name := by
  intro c hc hmem
  have hupper : c.toUpper ∈ kind.word := h ▸ List.mem_map_of_mem hmem
  simp only [List.mem_cons, List.not_mem_nil, or_false] at hc
  cases kind <;> rcases hc with rfl | rfl | rfl <;> exact absurd hupper (by decide)

/-- Spaces and tabs end where a word begins. -/
theorem dropWhile_word {kind : Section} {name : List Char} (h : name.map Char.toUpper = kind.word)
    (rest : List Char) : (name ++ rest).dropWhile isPad = name ++ rest := by
  cases name with
  | nil => cases kind <;> cases h
  | cons c name =>
    apply List.dropWhile_cons_of_neg
    intro hpad
    have hc := not_mem_of_toUpper h c
    simp only [isPad, Bool.or_eq_true, beq_iff_eq] at hpad
    rcases hpad with rfl | rfl
    · exact hc (by decide) (List.mem_cons_self ..)
    · exact hc (by decide) (List.mem_cons_self ..)

/-- **A word is read** in any case, whatever follows it. -/
theorem keyword?_append {kind : Section} {name : List Char}
    (h : name.map Char.toUpper = kind.word) (rest : List Char) :
    keyword? (name ++ rest) = some (kind, rest) := by
  cases kind with
  | up =>
    obtain ⟨a, name, rfl, ha, h⟩ := List.map_eq_cons_iff.mp h
    obtain ⟨b, name, rfl, hb, h⟩ := List.map_eq_cons_iff.mp h
    obtain rfl := List.map_eq_nil_iff.mp h
    have hup : [a, b].map Char.toUpper = ['U', 'P'] := by
      rw [List.map_cons, List.map_singleton, ha, hb]
    -- the longer word is tried first, and the first letter rules it out
    have hdown : ∀ c d, ¬[a, b, c, d].map Char.toUpper = ['D', 'O', 'W', 'N'] := by
      intro c d hdown
      have ha' : a.toUpper = 'D' := (List.cons.inj hdown).1
      rw [ha] at ha'
      cases ha'
    match rest with
    | [] => exact if_pos hup
    | [c] => exact if_pos hup
    | c :: d :: rest =>
      show (if _ then _ else _) = _
      rw [if_neg (hdown c d), if_pos hup]
  | down =>
    have hdown := h
    obtain ⟨a, name, rfl, -, h⟩ := List.map_eq_cons_iff.mp h
    obtain ⟨b, name, rfl, -, h⟩ := List.map_eq_cons_iff.mp h
    obtain ⟨c, name, rfl, -, h⟩ := List.map_eq_cons_iff.mp h
    obtain ⟨d, name, rfl, -, h⟩ := List.map_eq_cons_iff.mp h
    obtain rfl := List.map_eq_nil_iff.mp h
    exact if_pos hdown

theorem of_keyword? {kind : Section} {cs rest : List Char} (h : keyword? cs = some (kind, rest)) :
    ∃ name, cs = name ++ rest ∧ name.map Char.toUpper = kind.word := by
  unfold keyword? at h
  split at h
  · rename_i a b c d tail
    split at h
    · rename_i hdown
      obtain ⟨rfl, rfl⟩ := Prod.mk.inj (Option.some.inj h)
      exact ⟨[a, b, c, d], rfl, hdown⟩
    · split at h
      · rename_i hup
        obtain ⟨rfl, rfl⟩ := Prod.mk.inj (Option.some.inj h)
        exact ⟨[a, b], rfl, hup⟩
      · cases h
  · rename_i a b tail _
    split at h
    · rename_i hup
      obtain ⟨rfl, rfl⟩ := Prod.mk.inj (Option.some.inj h)
      exact ⟨[a, b], rfl, hup⟩
    · cases h
  · cases h

/-! ## Marker lines -/

theorem atLineEnd_append {ending rest : List Char} (h : ending = [] ∨ ending = ['\r'])
    (hrest : IsRest rest) : (ending ++ rest).dropWhile isPad = ending ++ rest ∧
      atLineEnd (ending ++ rest) = true ∧ dropReturn (ending ++ rest) = rest := by
  cases rest with
  | nil => rcases h with rfl | rfl <;> decide
  | cons c rest =>
    obtain rfl : c = '\n' := hrest c rfl
    rcases h with rfl | rfl
    · exact ⟨List.dropWhile_cons_of_neg (by decide), rfl, rfl⟩
    · exact ⟨List.dropWhile_cons_of_neg (by decide), rfl, rfl⟩

theorem of_atLineEnd {cs : List Char} (h : atLineEnd cs = true) :
    ∃ ending, cs = ending ++ dropReturn cs ∧ (ending = [] ∨ ending = ['\r']) ∧
      IsRest (dropReturn cs) := by
  unfold atLineEnd at h
  split at h
  · exact ⟨[], rfl, .inl rfl, isRest_nil⟩
  · exact ⟨['\r'], rfl, .inr rfl, isRest_nil⟩
  · exact ⟨['\r'], rfl, .inr rfl, fun c hc => (Option.some.inj hc).symm⟩
  · obtain rfl := beq_iff_eq.mp h
    exact ⟨[], rfl, .inl rfl, fun c hc => (Option.some.inj hc).symm⟩

theorem not_isMarker_nil (kind : Section) : ¬IsMarker kind [] := by
  rintro ⟨before, name, after, ending, h, -⟩
  cases h

theorem IsMarker.not_mem {kind : Section} {line : List Char} (h : IsMarker kind line) :
    '\n' ∉ line := by
  obtain ⟨before, name, after, ending, rfl, hbefore, hname, hafter, hending⟩ := h
  have hpads : ∀ pads : List Char, (∀ c ∈ pads, isPad c = true) → '\n' ∉ pads := fun pads h hmem =>
    absurd (h _ hmem) (by decide)
  have hreturn : '\n' ∉ ending := by rcases hending with rfl | rfl <;> decide
  simp only [List.mem_cons, List.mem_append, hpads before hbefore, hpads after hafter, hreturn,
    not_mem_of_toUpper hname '\n' (by decide), or_false]
  decide

/-- **A marker line is read**, whatever lines follow. -/
theorem IsMarker.marker? {kind : Section} {line rest : List Char} (h : IsMarker kind line)
    (hrest : IsRest rest) : marker? (line ++ rest) = some (kind, rest) := by
  obtain ⟨before, name, after, ending, rfl, hbefore, hname, hafter, hending⟩ := h
  obtain ⟨hdrop, hend, hreturn⟩ := atLineEnd_append hending hrest
  have hchars : '-' :: '-' :: (before ++ (name ++ (after ++ ending))) ++ rest =
      '-' :: '-' :: (before ++ (name ++ (after ++ (ending ++ rest)))) := by
    simp only [List.cons_append, List.append_assoc]
  rw [hchars, Section.marker?, List.dropWhile_append_of_pos hbefore, dropWhile_word hname,
    keyword?_append hname]
  simp only [List.dropWhile_append_of_pos hafter, hdrop, hend, hreturn, if_true]

/-- What is read is a marker line, with the rest of the lines behind it. -/
theorem of_marker? {kind : Section} {cs rest : List Char} (h : marker? cs = some (kind, rest)) :
    ∃ line, cs = line ++ rest ∧ IsMarker kind line ∧ IsRest rest := by
  unfold marker? at h
  split at h
  · rename_i cs
    split at h
    · rename_i _ tail hkeyword
      split at h
      · rename_i hend
        obtain ⟨rfl, rfl⟩ := Prod.mk.inj (Option.some.inj h)
        obtain ⟨name, hname, hupper⟩ := of_keyword? hkeyword
        obtain ⟨ending, hending, hreturn, hrest⟩ := of_atLineEnd hend
        -- what is behind the line stays a name, and only what is in front of it is taken apart
        generalize dropReturn (tail.dropWhile isPad) = behind at hending hrest ⊢
        refine ⟨_, ?_, ⟨cs.takeWhile isPad, name, tail.takeWhile isPad, ending, rfl,
          fun _ => List.mem_takeWhile_imp, hupper, fun _ => List.mem_takeWhile_imp, hreturn⟩, hrest⟩
        calc
          '-' :: '-' :: cs = '-' :: '-' :: (cs.takeWhile isPad ++ cs.dropWhile isPad) := by
            rw [List.takeWhile_append_dropWhile]
          _ = '-' :: '-' :: (cs.takeWhile isPad ++
                (name ++ (tail.takeWhile isPad ++ tail.dropWhile isPad))) := by
            rw [hname, List.takeWhile_append_dropWhile]
          _ = _ := by
            rw [hending]
            simp only [List.cons_append, List.append_assoc]
      · cases h
    · cases h
  · cases h

instance (kind : Section) (line : List Char) : Decidable (IsMarker kind line) :=
  decidable_of_iff (Section.marker? line = some (kind, [])) <| by
    constructor
    · intro h
      obtain ⟨line', hline, hmarker, -⟩ := of_marker? h
      rwa [hline, List.append_nil]
    · intro h
      have hread := h.marker? isRest_nil
      rwa [List.append_nil] at hread

theorem IsMarker.kind_eq {j k : Section} {line : List Char} (hj : IsMarker j line)
    (hk : IsMarker k line) : j = k := by
  have heq := (hj.marker? isRest_nil).symm.trans (hk.marker? isRest_nil)
  exact (Prod.mk.inj (Option.some.inj heq)).1

/-- At the beginning of a line just this line is read. -/
theorem marker?_line {line rest : List Char} (hline : '\n' ∉ line) (hrest : IsRest rest) :
    (∃ kind, IsMarker kind line ∧ Section.marker? (line ++ rest) = some (kind, rest)) ∨
      (∀ kind, ¬IsMarker kind line) ∧ Section.marker? (line ++ rest) = none := by
  cases hread : Section.marker? (line ++ rest) with
  | none =>
    refine .inr ⟨fun kind hkind => ?_, rfl⟩
    rw [hkind.marker? hrest] at hread
    cases hread
  | some found =>
    obtain ⟨kind, rest'⟩ := found
    obtain ⟨line', heq, hkind, hrest'⟩ := of_marker? hread
    -- what is read has no line feed in it either, so it is this line
    obtain ⟨rfl, rfl⟩ := Text.cut_unique hline hkind.not_mem hrest hrest' heq
    exact .inl ⟨kind, hkind, rfl⟩

/-! ## Lines -/

/-- Lines behind another. -/
def below (lines : List (List Char)) : List Char :=
  lines.flatMap ('\n' :: ·)

theorem isRest_below (lines : List (List Char)) : IsRest (below lines) := by
  cases lines with
  | nil => exact isRest_nil
  | cons line rest => exact fun c hc => (Option.some.inj hc).symm

theorem below_cons (line : List Char) (rest : List (List Char)) :
    below (line :: rest) = '\n' :: (line ++ below rest) := rfl

theorem intercalate_cons (line : List Char) (rest : List (List Char)) :
    ['\n'].intercalate (line :: rest) = line ++ below rest :=
  Text.intercalate_cons _ _ _

/-- The section of a kind, read off the lines of a text. -/
def ofLines (kind : Section) (lines : List (List Char)) : Option String :=
  match lines.dropWhile fun line => ¬IsMarker kind line with
  | [] => none
  | _ :: rest => some (String.ofList (Text.trimChars
    (['\n'].intercalate (rest.takeWhile fun line => ¬IsMarker up line ∧ ¬IsMarker down line))))

theorem after?_false {kind : Section} {line : List Char} (hline : '\n' ∉ line)
    (rest : List Char) : after? kind false (line ++ rest) = after? kind false rest := by
  induction line with
  | nil => rfl
  | cons c line ih =>
    rw [List.mem_cons, not_or] at hline
    have hc : (c == '\n') = false := beq_eq_false_iff_ne.mpr (Ne.symm hline.1)
    rw [List.cons_append, after?]
    simp only [Bool.false_eq_true, if_false, hc]
    exact ih hline.2

/-- **Line by line** a marker of the kind is looked for. -/
theorem after?_line {kind : Section} {line rest : List Char} (hline : '\n' ∉ line)
    (hrest : IsRest rest) : after? kind true (line ++ rest) =
      if IsMarker kind line then some rest else after? kind false rest := by
  cases line with
  | nil =>
    rw [if_neg (not_isMarker_nil kind), List.nil_append]
    cases rest with
    | nil => rfl
    | cons c rest =>
      obtain rfl : c = '\n' := hrest c rfl
      rfl
  | cons c line =>
    have hc : (c == '\n') = false := by
      rw [List.mem_cons, not_or] at hline
      exact beq_eq_false_iff_ne.mpr (Ne.symm hline.1)
    have hbehind : after? kind false (line ++ rest) = after? kind false rest :=
      after?_false (fun h => hline (List.mem_cons_of_mem _ h)) rest
    rw [List.cons_append, after?, if_pos rfl, ← List.cons_append]
    rcases marker?_line hline hrest with ⟨found, hfound, hread⟩ | ⟨hnone, hread⟩
    · rw [hread]
      simp only [hc]
      -- a marker of the other kind is passed like any line
      by_cases hkind : found = kind
      · rw [if_pos hkind, if_pos (hkind ▸ hfound)]
      · rw [if_neg hkind, if_neg fun h => hkind (hfound.kind_eq h), hbehind]
    · rw [hread, if_neg (hnone kind)]
      simp only [hc]
      exact hbehind

theorem before_false {line : List Char} (hline : '\n' ∉ line) (rest : List Char) :
    before false (line ++ rest) = line ++ before false rest := by
  induction line with
  | nil => rfl
  | cons c line ih =>
    rw [List.mem_cons, not_or] at hline
    have hc : (c == '\n') = false := beq_eq_false_iff_ne.mpr (Ne.symm hline.1)
    rw [List.cons_append, before, hc]
    simp only [Bool.false_and, Bool.false_eq_true, if_false]
    rw [ih hline.2, List.cons_append]

/-- **Line by line** the next marker is looked for. -/
theorem before_line {line rest : List Char} (hline : '\n' ∉ line) (hrest : IsRest rest) :
    before true (line ++ rest) =
      if ¬IsMarker up line ∧ ¬IsMarker down line then line ++ before false rest else [] := by
  cases line with
  | nil =>
    rw [if_pos ⟨not_isMarker_nil up, not_isMarker_nil down⟩, List.nil_append, List.nil_append]
    cases rest with
    | nil => rfl
    | cons c rest =>
      obtain rfl : c = '\n' := hrest c rfl
      rfl
  | cons c line =>
    rw [List.cons_append, before, ← List.cons_append]
    rcases marker?_line hline hrest with ⟨found, hfound, hread⟩ | ⟨hnone, hread⟩
    · have hmarked : ¬(¬IsMarker up (c :: line) ∧ ¬IsMarker down (c :: line)) := by
        rintro ⟨hup, hdown⟩
        cases found with
        | up => exact hup hfound
        | down => exact hdown hfound
      rw [hread, if_neg hmarked]
      rfl
    · rw [List.mem_cons, not_or] at hline
      have hc : (c == '\n') = false := beq_eq_false_iff_ne.mpr (Ne.symm hline.1)
      simp only [hread, Option.isSome_none, Bool.and_false, Bool.false_eq_true, if_false, hc]
      rw [if_pos ⟨hnone up, hnone down⟩, before_false hline.2, List.cons_append]

/-! ## Whole texts -/

theorem after?_lines (kind : Section) {line : List Char} {rest : List (List Char)}
    (h : ∀ l ∈ line :: rest, '\n' ∉ l) : after? kind true (line ++ below rest) =
      match (line :: rest).dropWhile fun l => ¬IsMarker kind l with
      | [] => none
      | _ :: behind => some (below behind) := by
  induction rest generalizing line with
  | nil =>
    rw [after?_line (h _ (List.mem_cons_self ..)) (isRest_below _)]
    by_cases hline : IsMarker kind line
    · rw [if_pos hline, List.dropWhile_cons_of_neg (by simpa using hline)]
    · rw [if_neg hline, List.dropWhile_cons_of_pos (by simpa using hline)]
      rfl
  | cons next rest ih =>
    obtain ⟨hfirst, hrest⟩ := List.forall_mem_cons.mp h
    rw [after?_line hfirst (isRest_below _)]
    by_cases hline : IsMarker kind line
    · rw [if_pos hline, List.dropWhile_cons_of_neg (by simpa using hline)]
    · rw [if_neg hline, List.dropWhile_cons_of_pos (by simpa using hline), below_cons, ← ih hrest]
      rfl

/-- What stands in front of the next marker line ends in a line feed if there is one. -/
theorem before_below {lines : List (List Char)} (h : ∀ l ∈ lines, '\n' ∉ l) :
    ∃ ending, (ending = [] ∨ ending = ['\n']) ∧ before false (below lines) =
      below (lines.takeWhile fun l => ¬IsMarker up l ∧ ¬IsMarker down l) ++ ending := by
  induction lines with
  | nil => exact ⟨[], .inl rfl, rfl⟩
  | cons line rest ih =>
    obtain ⟨hline, hrest⟩ := List.forall_mem_cons.mp h
    have hstep : before false (below (line :: rest)) =
        '\n' :: before true (line ++ below rest) := rfl
    rw [hstep, before_line hline (isRest_below _)]
    by_cases hmarker : ¬IsMarker up line ∧ ¬IsMarker down line
    · obtain ⟨ending, hending, hbefore⟩ := ih hrest
      refine ⟨ending, hending, ?_⟩
      rw [if_pos hmarker, List.takeWhile_cons_of_pos (by simpa using hmarker), below_cons, hbefore]
      simp only [List.cons_append, List.append_assoc]
    · refine ⟨['\n'], .inr rfl, ?_⟩
      -- the line feed in front of the marker line has been passed already
      rw [if_neg hmarker, List.takeWhile_cons_of_neg (by simpa using hmarker)]
      rfl

theorem trimChars_below (lines : List (List Char)) {ending : List Char}
    (h : ending = [] ∨ ending = ['\n']) :
    Text.trimChars (below lines ++ ending) = Text.trimChars (['\n'].intercalate lines) := by
  have hend : Text.trimChars (below lines ++ ending) = Text.trimChars (below lines) := by
    rcases h with rfl | rfl
    · rw [List.append_nil]
    · exact Text.trimChars_concat (by decide) _
  rw [hend]
  cases lines with
  | nil => rfl
  | cons line rest => rw [below_cons, Text.trimChars_cons (by decide), intercalate_cons]

/-- The section of a text that is put together from lines. -/
theorem extract_intercalate (kind : Section) {lines : List (List Char)} (hne : lines ≠ [])
    (h : ∀ line ∈ lines, '\n' ∉ line) :
    extract kind (String.ofList (['\n'].intercalate lines)) = ofLines kind lines := by
  obtain ⟨line, rest, rfl⟩ := List.exists_cons_of_ne_nil hne
  unfold extract ofLines
  rw [String.toList_ofList, intercalate_cons, after?_lines kind h]
  cases hdrop : (line :: rest).dropWhile fun l => ¬IsMarker kind l with
  | nil => rfl
  | cons marker behind =>
    have hbehind : ∀ l ∈ behind, '\n' ∉ l := fun l hl =>
      h l ((List.dropWhile_sublist _).subset (hdrop ▸ List.mem_cons_of_mem _ hl))
    obtain ⟨ending, hending, hbefore⟩ := before_below hbehind
    simp only [Option.map_some, hbefore, trimChars_below _ hending]

theorem after?_suffix {kind : Section} {start : Bool} {cs rest : List Char}
    (h : after? kind start cs = some rest) : rest <:+ cs := by
  induction cs generalizing start with
  | nil => cases h
  | cons c cs ih =>
    unfold after? at h
    split at h
    · rename_i k behind hmarker
      split at h
      · obtain rfl := Option.some.inj h
        -- only at the start of a line does a marker begin
        cases start with
        | false => cases hmarker
        | true =>
          obtain ⟨line, hline, -⟩ := of_marker? hmarker
          exact ⟨line, hline.symm⟩
      · exact (ih h).trans (List.suffix_cons c cs)
    · exact (ih h).trans (List.suffix_cons c cs)

theorem before_isPrefix (start : Bool) (cs : List Char) : before start cs <+: cs := by
  induction cs generalizing start with
  | nil => exact List.prefix_rfl
  | cons c cs ih =>
    unfold before
    split
    · exact List.nil_prefix
    · exact (List.prefix_cons_inj c).mpr (ih _)

/-- **A section is read off the lines** of a text, whatever its markers and line endings are: it is
what stands behind the first marker line of its kind and in front of the next marker line of either
kind, without the blanks around it, and there is none without such a line.  It is cut out between
two places of the text, the first of which is not behind the second. -/
theorem extract_eq_ofLines (kind : Section) (text : String) :
    extract kind text = ofLines kind (text.toList.splitOn '\n') ∧
      ∀ body, extract kind text = some body → ∃ start stop, start ≤ stop ∧
        stop ≤ text.toList.length ∧
        body = String.ofList (Text.trimChars (text.toList.extract start stop)) := by
  constructor
  · have hlines := extract_intercalate kind (List.splitOn_ne_nil '\n' text.toList)
      fun _ => Text.not_mem_of_mem_splitOn
    rwa [List.intercalate_splitOn, String.ofList_toList] at hlines
  · intro body hbody
    obtain ⟨rest, hrest, rfl⟩ := Option.map_eq_some_iff.mp hbody
    obtain ⟨front, hfront⟩ := after?_suffix hrest
    have hlength := congrArg List.length hfront
    have hbefore := (before_isPrefix false rest).length_le
    have hstretch : rest.take (before false rest).length = before false rest :=
      (List.prefix_iff_eq_take.mp (before_isPrefix false rest)).symm
    rw [List.length_append] at hlength
    refine ⟨front.length, front.length + (before false rest).length, Nat.le_add_right .., ?_, ?_⟩
    · omega
    · rw [← hfront, List.extract_eq_take_drop, List.drop_left, Nat.add_sub_cancel_left, hstretch]

end SchemaKit.Section
