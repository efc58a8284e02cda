import Mathlib
import SchemaKit.Proofs.ReadUrl

/-!
# Settings that have been read

Settings that come from a URL can be written as one again (`Settings.IsRead`): the host is in its
final form, and the name of the database is none that means a directory, since dots have been
resolved.  All that may be lost is the mode, for it is decoded when it is read and not escaped when
it is written.  `Settings.rereadMode_eq_iff` tells which modes come back, and
`Settings.ofUrl_url_of_read` what is read of settings that have been read before.
-/

namespace SchemaKit.Connection

open Text
open Text.Utf8 (isAscii)

namespace Url

/-! ## Texts that are clean -/

theorem clean_sublist (cs : List Char) : (clean cs).Sublist cs := by
  have hend := (List.dropWhile_sublist (l := cs.reverse) isControlOrSpace).reverse
  rw [List.reverse_reverse] at hend
  exact List.filter_sublist.trans hend

/-- A blank at the end counts for nothing. -/
theorem clean_concat {c : Char} (hc : c ≤ ' ') (cs : List Char) : clean (cs ++ [c]) = clean cs := by
  have hblank : isControlOrSpace c = true := decide_eq_true hc
  unfold clean
  rw [List.reverse_concat, List.dropWhile_cons_of_pos hblank]

theorem clean_eq_self {cs : List Char} (hlast : ∀ c ∈ cs.getLast?, ' ' < c)
    (hkept : ∀ c ∈ cs, isIgnored c = false) : clean cs = cs := by
  have hstop : cs.reverse.dropWhile isControlOrSpace = cs.reverse := by
    rw [← List.head?_reverse] at hlast
    cases hreverse : cs.reverse with
    | nil => rfl
    | cons c rest =>
      rw [hreverse] at hlast
      have hlt : ¬c ≤ ' ' := Char.not_le.mpr (hlast c rfl)
      exact List.dropWhile_cons_of_neg (by simpa [isControlOrSpace] using hlt)
  unfold clean
  rw [hstop, List.reverse_reverse, List.filter_eq_self]
  intro c hc
  rw [hkept c hc]
  rfl

end Url

namespace Settings

/-! ## Modes that come back -/

/-- A mode that a URL holds as it is: no delimiter is in it and no plus sign, which stands for a
blank, no tab or line break and no blank at its end, and nothing that would be decoded. -/
structure IsVerbatim (mode : String) : Prop where
  kept : ∀ c ∈ mode.toList, c ∉ ['#', '&', '+', '\t', '\n', '\r']
  last : ∀ c ∈ mode.toList.getLast?, ' ' < c
  unescaped : Percent.IsUnescaped mode.toList

theorem modeStretch_sublist (cs : List Char) : (modeStretch cs).Sublist cs :=
  ((List.takeWhile_sublist _).trans (List.takeWhile_sublist _)).trans (Url.clean_sublist cs)

/-- What ends a mode or counts for nothing is not in the stretch that is read. -/
theorem not_mem_modeStretch {cs : List Char} {c : Char} (hc : c ∈ modeStretch cs) :
    c ∉ ['#', '&', '\t', '\n', '\r'] := by
  have hampersand := List.mem_takeWhile_imp hc
  have hhash := List.mem_takeWhile_imp ((List.takeWhile_sublist _).subset hc)
  have hclean := ((List.takeWhile_sublist _).trans (List.takeWhile_sublist _)).subset hc
  have hignored := (List.mem_filter.mp hclean).2
  rw [bne_iff_ne] at hampersand hhash
  simp only [Url.isIgnored, Bool.not_eq_true', Bool.or_eq_false_iff, beq_eq_false_iff_ne] at hignored
  simp only [List.mem_cons, List.not_mem_nil, or_false]
  rintro (rfl | rfl | rfl | rfl | rfl)
  · exact hhash rfl
  · exact hampersand rfl
  · exact hignored.1.1 rfl
  · exact hignored.1.2 rfl
  · exact hignored.2 rfl

theorem modeStretch_eq_self {cs : List Char} (hlast : ∀ c ∈ cs.getLast?, ' ' < c)
    (hkept : ∀ c ∈ cs, c ∉ ['#', '&', '\t', '\n', '\r']) : modeStretch cs = cs := by
  have hne : ∀ d ∈ ['#', '&', '\t', '\n', '\r'], ∀ c ∈ cs, c ≠ d := by
    rintro d hd c hc rfl
    exact hkept c hc hd
  have hclean : Url.clean cs = cs := by
    refine Url.clean_eq_self hlast fun c hc => ?_
    simp [Url.isIgnored, hne '\t' (by simp) c hc, hne '\n' (by simp) c hc,
      hne '\r' (by simp) c hc]
  have hhash : ∀ c ∈ cs, (c != '#') = true := fun c hc =>
    bne_iff_ne.mpr (hne '#' (by simp) c hc)
  have hampersand : ∀ c ∈ cs, (c != '&') = true := fun c hc =>
    bne_iff_ne.mpr (hne '&' (by simp) c hc)
  unfold modeStretch
  rw [hclean, List.takeWhile_eq_self_iff.mpr hhash, List.takeWhile_eq_self_iff.mpr hampersand]

/-- Where no character of ASCII is lost, none is left out. -/
theorem mem_of_sublist_of_countP_le {part cs : List Char} (h : part.Sublist cs)
    (hcount : cs.countP isAscii ≤ part.countP isAscii) {c : Char} (hc : c ∈ cs)
    (hascii : isAscii c = true) : c ∈ part := by
  have hfilter : part.filter isAscii = cs.filter isAscii := by
    apply (h.filter isAscii).eq_of_length_le
    rw [← List.countP_eq_length_filter, ← List.countP_eq_length_filter]
    exact hcount
  have hmem : c ∈ part.filter isAscii := by
    rw [hfilter]
    exact List.mem_filter.mpr ⟨hc, hascii⟩
  exact (List.mem_filter.mp hmem).1

/-- A stretch without characters of ASCII fewer than the whole is the whole, without delimiters. -/
theorem modeStretch_of_countP_le {cs : List Char}
    (hcount : cs.countP isAscii ≤ (modeStretch cs).countP isAscii) :
    (∀ c ∈ cs, c ∉ ['#', '&', '\t', '\n', '\r']) ∧ ∀ c ∈ cs.getLast?, ' ' < c := by
  have hascii : ∀ c ∈ ['#', '&', '\t', '\n', '\r'], isAscii c = true :=
    List.all_eq_true.mp (by decide)
  refine ⟨fun c hc hdelimiter => ?_, fun c hc => Char.not_le.mp fun hle => ?_⟩
  · have hmem := mem_of_sublist_of_countP_le (modeStretch_sublist cs) hcount hc
      (hascii c hdelimiter)
    exact not_mem_modeStretch hmem hdelimiter
  · -- the blank at the end is a character of ASCII, and it is left out
    obtain ⟨front, rfl⟩ := List.getLast?_eq_some_iff.mp hc
    have hlt : isAscii c = true := decide_eq_true (Nat.lt_of_le_of_lt hle (by decide))
    have hstretch : modeStretch (front ++ [c]) = modeStretch front := by
      unfold modeStretch
      rw [Url.clean_concat hle]
    have hfront := (modeStretch_sublist front).countP_le (p := isAscii)
    rw [hstretch, List.countP_append, List.countP_singleton, hlt, if_pos rfl] at hcount
    omega

theorem countP_plus (cs : List Char) :
    (cs.map fun c => if c = '+' then ' ' else c).countP isAscii = cs.countP isAscii := by
  rw [List.countP_map]
  apply List.countP_congr
  intro c _
  by_cases hc : c = '+'
  · rw [hc]
    decide
  · rw [Function.comp_apply, if_neg hc]

theorem map_plus_eq_self {cs : List Char} :
    cs.map (fun c => if c = '+' then ' ' else c) = cs ↔ ∀ c ∈ cs, c ≠ '+' := by
  have hid : cs = cs.map id := (List.map_id cs).symm
  nth_rewrite 2 [hid]
  rw [List.map_inj_left]
  refine forall₂_congr fun c _ => ?_
  by_cases hc : c = '+'
  · rw [hc]
    decide
  · simp [hc]

/-- On the way through a URL no character of ASCII is gained. -/
theorem countP_decode_modeStretch_le (cs : List Char) :
    (Form.decode (modeStretch cs)).toList.countP isAscii ≤ (modeStretch cs).countP isAscii := by
  have hle := Percent.countP_decode_le ((modeStretch cs).map fun c => if c = '+' then ' ' else c)
  rwa [countP_plus] at hle

theorem isVerbatim_of_rereadMode_eq {mode : String} (h : rereadMode mode = mode) :
    IsVerbatim mode := by
  have hread : (Form.decode (modeStretch mode.toList)).toList = mode.toList :=
    congrArg String.toList h
  -- none is gained, and the mode is as before, so none can have been lost
  have hcount := countP_decode_modeStretch_le mode.toList
  rw [hread] at hcount
  obtain ⟨hkept, hlast⟩ := modeStretch_of_countP_le hcount
  rw [modeStretch_eq_self hlast hkept, Form.decode] at hread
  have hunescaped : Percent.IsUnescaped
      (mode.toList.map fun c => if c = '+' then ' ' else c) := by
    by_contra hescape
    have hlt := Percent.countP_decode_lt hescape
    rw [hread, countP_plus] at hlt
    exact Nat.lt_irrefl _ hlt
  have hself : mode.toList.map (fun c => if c = '+' then ' ' else c) = mode.toList :=
    (Percent.decode_eq_self_iff.mpr hunescaped).symm.trans hread
  rw [hself] at hunescaped
  refine ⟨fun c hc hmem => ?_, hlast, hunescaped⟩
  by_cases hplus : c = '+'
  · exact map_plus_eq_self.mp hself c hc hplus
  · refine hkept c hc ?_
    simpa only [List.mem_cons, hplus, false_or] using hmem

theorem IsVerbatim.rereadMode_eq {mode : String} (h : IsVerbatim mode) : rereadMode mode = mode := by
  have hkept : ∀ c ∈ mode.toList, c ∉ ['#', '&', '\t', '\n', '\r'] := by
    intro c hc hmem
    have hsubset : ['#', '&', '\t', '\n', '\r'] ⊆ ['#', '&', '+', '\t', '\n', '\r'] := by decide
    exact h.kept c hc (hsubset hmem)
  have hplus : mode.toList.map (fun c => if c = '+' then ' ' else c) = mode.toList := by
    refine map_plus_eq_self.mpr ?_
    rintro c hc rfl
    exact h.kept '+' hc (by decide)
  have hself := Percent.decode_eq_self_iff.mpr h.unescaped
  unfold rereadMode Form.decode
  rw [modeStretch_eq_self h.last hkept, hplus]
  exact String.toList_inj.mp hself

/-- **A mode comes back** exactly if a URL holds it as it is. -/
theorem rereadMode_eq_iff (mode : String) : rereadMode mode = mode ↔ IsVerbatim mode :=
  ⟨isVerbatim_of_rereadMode_eq, IsVerbatim.rereadMode_eq⟩

/-! ## What has been read -/

/-- Settings as they come from a URL: there is a user, the host is in its final form, the database
has a name that means no directory, and the pool is the usual one. -/
structure IsRead (s : Settings) : Prop where
  user : s.user ≠ ""
  host : Url.IsSettled s.host.toList
  database : ¬(s.database = "" ∨ s.database = "." ∨ s.database = "..")
  maxConnections : s.maxConnections = ({} : Settings).maxConnections
  acquireTimeout : s.acquireTimeout = ({} : Settings).acquireTimeout

theorem part_cases (cs : List Char) : part cs = none ∨ cs ≠ [] ∧ part cs = some cs := by
  unfold part
  cases cs with
  | nil => exact .inl rfl
  | cons c cs => exact .inr ⟨List.cons_ne_nil c cs, rfl⟩

/-- **What a URL names** are settings that can be written again. -/
theorem isRead_of_ofUrl {text : String} {s : Settings} (h : ofUrl text = .ok s) : s.IsRead := by
  obtain ⟨rest, u, hparse, rfl⟩ : ∃ rest u, Url.parse rest = .ok u ∧ ofParts u = s := by
    unfold ofUrl at h
    split at h
    · cases h
    · rename_i scheme rest hscheme
      split at h
      · cases hparse : Url.parse rest with
        | error fault =>
          rw [hparse] at h
          cases h
        | ok u =>
          rw [hparse] at h
          exact ⟨rest, u, hparse, Except.ok.inj h⟩
      · cases h
  obtain ⟨⟨rawHost, hhost⟩, rawPath, hpath⟩ := Url.of_parse hparse
  refine ⟨?user, ?host, ?database, rfl, rfl⟩
  case user =>
    show ((part u.user).map Percent.decode).getD "postgres" ≠ ""
    rcases part_cases u.user with hnone | ⟨hne, hsome⟩
    · rw [hnone]
      decide
    · rw [hsome]
      exact fun hempty => hne (Url.eq_nil_of_decode hempty)
  case host =>
    show Url.IsSettled (((part u.host).map String.ofList).getD "localhost").toList
    rcases part_cases u.host with hnone | ⟨hne, hsome⟩
    · rw [hnone]
      exact Url.isSettled_of_isPlain (by decide) (List.all_eq_true.mp (by decide))
    · rw [hsome, Option.map_some, Option.getD_some, String.toList_ofList]
      exact Url.isSettled_of_parseHost hhost hne
  case database =>
    have hname : (ofParts u).database =
        ((part ((Url.resolvePath rawPath).dropWhile (· = '/'))).map Percent.decode).getD
          "postgres" := by rw [← hpath]; rfl
    rw [hname]
    obtain ⟨hsingle, hdouble⟩ := Url.noDots_of_resolvePath rawPath
    rcases part_cases ((Url.resolvePath rawPath).dropWhile (· = '/')) with hnone | ⟨hne, hsome⟩
    · rw [hnone]
      decide
    · rw [hsome]
      rintro (hempty | hdot | hdots)
      · exact hne (Url.eq_nil_of_decode hempty)
      · exact Bool.false_ne_true (hsingle.symm.trans (Url.isSingleDot_of_decode hdot))
      · exact Bool.false_ne_true (hdouble.symm.trans (Url.isDoubleDot_of_decode hdots))

theorem IsRead.isWritable {s : Settings} (h : s.IsRead) : s.IsWritable :=
  ⟨h.user, h.host⟩

/-- Of what has been read nothing but the mode changes in a URL. -/
theorem IsRead.reread_eq {s : Settings} (h : s.IsRead) :
    s.reread = { s with sslmode := s.sslmode.map rereadMode } := by
  have hdatabase : s.reread.database = s.database := if_neg h.database
  have hmax : s.reread.maxConnections = s.maxConnections := h.maxConnections.symm
  have htimeout : s.reread.acquireTimeout = s.acquireTimeout := h.acquireTimeout.symm
  calc
    s.reread = { s with
      database := s.reread.database
      sslmode := s.sslmode.map rereadMode
      maxConnections := s.reread.maxConnections
      acquireTimeout := s.reread.acquireTimeout } := rfl
    _ = { s with sslmode := s.sslmode.map rereadMode } := by rw [hdatabase, hmax, htimeout]

/-- **Settings that have been read are read back** from the URL they are written as, whatever their
host, port, user, password and database are.  The mode alone may change, and all comes back exactly
if a URL holds the mode as it is. -/
theorem ofUrl_url_of_read {text : String} {s : Settings} (h : ofUrl text = .ok s) :
    ofUrl s.url = .ok { s with sslmode := s.sslmode.map rereadMode } ∧
      (ofUrl s.url = .ok s ↔ ∀ mode, s.sslmode = some mode → IsVerbatim mode) := by
  have hread := isRead_of_ofUrl h
  have hback : ofUrl s.url = .ok { s with sslmode := s.sslmode.map rereadMode } := by
    rw [ofUrl_url hread.isWritable, hread.reread_eq]
  refine ⟨hback, ?_⟩
  rw [hback]
  constructor
  · intro hsame mode hmode
    have hmap : s.sslmode.map rereadMode = s.sslmode :=
      congrArg Settings.sslmode (Except.ok.inj hsame)
    rw [hmode] at hmap
    exact (rereadMode_eq_iff mode).mp (Option.some.inj hmap)
  · intro hverbatim
    have hmap : s.sslmode.map rereadMode = s.sslmode := by
      cases hmode : s.sslmode with
      | none => rfl
      | some mode => rw [Option.map_some, (rereadMode_eq_iff mode).mpr (hverbatim mode hmode)]
    rw [hmap]

/-- An address in brackets, a path of several segments with a dot among them, and escapes in every
part. -/
theorem ofUrl_url_of_address :
    let text := "postgresql://a%40:%2F@[2001:DB8:0:0::1]:6432/x%2Fy/./z?q=1&sslmode=verify%2Dfull#x"
    let s : Settings := {
      user := "a@", password := "/", host := "[2001:db8::1]", port := 6432
      database := "x/y/z", sslmode := some "verify-full" }
    ofUrl text = .ok s ∧
      ofUrl s.url = .ok { s with sslmode := s.sslmode.map rereadMode } ∧
      (ofUrl s.url = .ok s ↔ ∀ mode, s.sslmode = some mode → IsVerbatim mode) := by
  intro text s
  have hread : ofUrl text = .ok s := by
    simp only [text, s]
    cbv
  exact ⟨hread, ofUrl_url_of_read hread⟩

/-- A mode with an ampersand, escaped where it is read, is written as it is and ends there. -/
theorem ampersand_ends_mode :
    let s : Settings := { host := "h", database := "d", sslmode := some "a&b" }
    ofUrl "postgres://h/d?sslmode=a%26b" = .ok s ∧
      s.url = "postgres://postgres@h:5432/d?sslmode=a&b" ∧
      ofUrl s.url = .ok { s with sslmode := some "a" } ∧ ofUrl s.url ≠ .ok s := by
  intro s
  have hread : ofUrl "postgres://h/d?sslmode=a%26b" = .ok s := by cbv
  have hurl : s.url = "postgres://postgres@h:5432/d?sslmode=a&b" := by decide
  have hback : ofUrl s.url = .ok { s with sslmode := some "a" } := by
    rw [hurl]
    cbv
  refine ⟨hread, hurl, hback, ?_⟩
  rw [hback]
  decide

end Settings

end SchemaKit.Connection
