import SchemaKit.Proofs.Addresses
import SchemaKit.Proofs.Progress
import SchemaKit.Proofs.SettingsUrl
import SchemaKit.Proofs.Unescaped

/-!
# URLs that have been read

Reading a URL puts its host into a final form, which is then read as it is
(`Url.isSettled_of_parseHost`), and resolves the dots of its path, so that what is left of it does
not mean a directory (`Url.noDots_of_resolvePath`).  Nothing but dots, escaped or not, reads as a
dot or two (`Url.isSingleDot_of_decode`, `Url.isDoubleDot_of_decode`).
-/

namespace SchemaKit.Connection

open Text

/-! ## Hosts -/

namespace Url

/-- A host is escaped into characters that a host holds as they are. -/
theorem isHostChar_of_mem_opaqueHost {cs : List Char} (h : ∀ c ∈ cs, isForbidden c = false)
    {c : Char} (hc : c ∈ opaqueHost cs) : isHostChar c = true := by
  obtain ⟨d, hd, hc⟩ := List.mem_flatMap.mp hc
  by_cases hescaped : isEscaped d = true
  · rw [if_pos hescaped] at hc
    obtain ⟨b, -, hc⟩ := List.mem_flatMap.mp hc
    have hcoded := Percent.isCoded_of_mem_escapeByte hc
    unfold Percent.isCoded at hcoded
    rw [Bool.or_eq_true, beq_iff_eq] at hcoded
    rcases hcoded with halnum | rfl
    · exact isHostChar_of_isPlain (isPlain_of_isAlphanum halnum)
    · decide
  · rw [if_neg hescaped, List.mem_singleton] at hc
    rw [hc, isHostChar, h d hd, Bool.eq_false_of_not_eq_true hescaped]
    rfl

/-- Up to the bracket at its end, an address does not end a host. -/
theorem splitHost_address {cs : List Char} (h : ∀ c ∈ cs, c.isAlphanum = true ∨ c = ':')
    (rest : List Char) :
    splitHost true (cs ++ ']' :: ':' :: rest) = (cs ++ [']'], ':' :: rest) := by
  induction cs with
  | nil => simp [splitHost, endsAuthority]
  | cons c cs ih =>
    obtain ⟨hc, hcs⟩ := List.forall_mem_cons.mp h
    have hkept : endsAuthority c = false ∧ (c != ']') = true := by
      rcases hc with halnum | rfl
      · have hplain := isPlain_of_isAlphanum halnum
        exact ⟨endsAuthority_of_isClear (isClear_of_isPlain hplain),
          bne_iff_ne.mpr (ne_of_true_of_false hplain (by decide))⟩
      · decide
    rw [List.cons_append, splitHost]
    simp only [hkept.1, hkept.2, Bool.not_true, Bool.and_false, Bool.or_self, Bool.false_eq_true,
      if_false, Bool.and_true, Bool.or_true, ih hcs, List.cons_append]

/-- **An address in brackets** is read as it is. -/
theorem isSettled_of_isAddress {pieces : List Nat} (h : Ipv6.IsAddress pieces) :
    IsSettled ('[' :: (Ipv6.text pieces ++ [']'])) := by
  have hchars := Ipv6.isAlphanum_of_mem_text pieces
  refine ⟨List.cons_ne_nil _ _, ?_, fun rest => ?_, ?_⟩
  · intro c hc
    rcases List.mem_cons.mp hc with rfl | hc
    · decide
    rcases List.mem_append.mp hc with hc | hc
    · rcases hchars c hc with halnum | rfl
      · exact isClear_of_isPlain (isPlain_of_isAlphanum halnum)
      · decide
    · rw [List.mem_singleton.mp hc]
      decide
  · rw [List.cons_append, List.append_assoc, splitHost]
    simp [endsAuthority, splitHost_address hchars rest]
  · have hlast : ('[' :: (Ipv6.text pieces ++ [']'])).getLast? = some ']' := by
      rw [← List.cons_append, List.getLast?_concat]
    have hinner : (('[' :: (Ipv6.text pieces ++ [']'])).drop 1).dropLast = Ipv6.text pieces := by
      rw [List.drop_succ_cons, List.drop_zero, List.dropLast_concat]
    unfold parseHost
    rw [List.head?_cons, if_pos rfl, if_pos hlast, hinner, Ipv6.parse?_text h]

/-- **A host that has been read** is read as it is. -/
theorem isSettled_of_parseHost {cs host : List Char} (h : parseHost cs = .ok host)
    (hne : host ≠ []) : IsSettled host := by
  unfold parseHost at h
  by_cases hbracket : cs.head? = some '['
  · rw [if_pos hbracket] at h
    split at h
    · split at h
      · rename_i hpieces
        obtain rfl := Except.ok.inj h
        exact isSettled_of_isAddress (Ipv6.isAddress_of_parse? hpieces)
      · cases h
    · cases h
  · rw [if_neg hbracket] at h
    split at h
    · cases h
    · rename_i hforbidden
      obtain rfl := Except.ok.inj h
      rw [Bool.not_eq_true, List.any_eq_false] at hforbidden
      refine isSettled_of_isHostChar hne fun c hc => isHostChar_of_mem_opaqueHost ?_ hc
      exact fun c hc => Bool.eq_false_of_not_eq_true (hforbidden c hc)

/-! ## Paths -/

/-- No dots are left at the end of a path that has been resolved. -/
theorem resolve_last {directories segments : List (List Char)}
    (hslash : ∀ segment ∈ segments, '/' ∉ segment) :
    '/' ∉ (resolve directories segments).2 ∧
      isSingleDot (resolve directories segments).2 = false ∧
      isDoubleDot (resolve directories segments).2 = false := by
  have hnone : '/' ∉ ([] : List Char) ∧ isSingleDot [] = false ∧ isDoubleDot [] = false := by
    decide
  induction segments generalizing directories with
  | nil => exact hnone
  | cons segment rest ih =>
    obtain ⟨hsegment, hrest⟩ := List.forall_mem_cons.mp hslash
    cases rest with
    | nil =>
      unfold resolve
      split
      · exact hnone
      · rename_i hdouble
        split
        · exact hnone
        · rename_i hsingle
          exact ⟨hsegment, Bool.eq_false_of_not_eq_true hsingle,
            Bool.eq_false_of_not_eq_true hdouble⟩
    | cons next rest =>
      unfold resolve
      split
      · exact ih hrest
      · split
        · exact ih hrest
        · exact ih hrest

/-- A path that has been resolved is empty or ends in a slash and a segment without dots. -/
theorem resolvePath_cases (cs : List Char) :
    resolvePath cs = [] ∨ ∃ front last, resolvePath cs = front ++ '/' :: last ∧ '/' ∉ last ∧
      isSingleDot last = false ∧ isDoubleDot last = false := by
  have hslashes : ∀ directories : List (List Char),
      ∃ front, '/' :: (directories.flatMap fun d => d ++ ['/']) = front ++ ['/'] := by
    intro directories
    induction directories with
    | nil => exact ⟨[], rfl⟩
    | cons d rest ih =>
      obtain ⟨front, hfront⟩ := ih
      refine ⟨'/' :: (d ++ front), ?_⟩
      rw [List.flatMap_cons, List.append_assoc, List.singleton_append, hfront]
      simp
  cases cs with
  | nil => exact .inl rfl
  | cons c rest =>
    simp only [resolvePath]
    have hsegments : ∀ segment ∈ (if c = '/' then rest else c :: rest).splitOn '/',
        '/' ∉ segment := fun _ => not_mem_of_mem_splitOn
    generalize (if c = '/' then rest else c :: rest).splitOn '/' = segments at hsegments
    obtain ⟨front, hfront⟩ := hslashes (resolve [] segments).1
    refine .inr ⟨front, (resolve [] segments).2, ?_, resolve_last hsegments⟩
    rw [hfront, List.append_assoc, List.singleton_append]

/-- A dot, escaped or not, holds no slash. -/
theorem not_mem_of_dropDot? {cs rest : List Char} (h : dropDot? cs = some rest)
    (hrest : '/' ∉ rest) : '/' ∉ cs := by
  unfold dropDot? at h
  split at h
  case h_1 tail =>
    obtain rfl := Option.some.inj h
    exact List.not_mem_cons_of_ne_of_not_mem (by decide) hrest
  case h_2 e tail =>
    split at h
    · rename_i he
      obtain rfl := Option.some.inj h
      rw [Bool.or_eq_true, decide_eq_true_eq, decide_eq_true_eq] at he
      rcases he with rfl | rfl <;> simpa using hrest
    · cases h
  case h_3 => cases h

theorem not_mem_of_isSingleDot {cs : List Char} (h : isSingleDot cs = true) : '/' ∉ cs :=
  not_mem_of_dropDot? (of_decide_eq_true h) List.not_mem_nil

theorem not_mem_of_isDoubleDot {cs : List Char} (h : isDoubleDot cs = true) : '/' ∉ cs := by
  have hbind : (dropDot? cs).bind dropDot? = some [] := of_decide_eq_true h
  obtain ⟨rest, hfirst, hsecond⟩ := Option.bind_eq_some_iff.mp hbind
  exact not_mem_of_dropDot? hfirst (not_mem_of_dropDot? hsecond List.not_mem_nil)

/-- **What is left of a path** behind its slashes does not mean a directory. -/
theorem noDots_of_resolvePath (cs : List Char) :
    isSingleDot ((resolvePath cs).dropWhile (· = '/')) = false ∧
      isDoubleDot ((resolvePath cs).dropWhile (· = '/')) = false := by
  rcases resolvePath_cases cs with hnil | ⟨front, last, hpath, hslash, hsingle, hdouble⟩
  · rw [hnil]
    decide
  have hlast : ('/' :: last).dropWhile (· = '/') = last := dropWhile_slash hslash
  rw [hpath, List.dropWhile_append]
  split
  · rw [hlast]
    exact ⟨hsingle, hdouble⟩
  · -- a slash is left, and dots have none in them
    have hmem : '/' ∈ front.dropWhile (· = '/') ++ '/' :: last := by simp
    exact ⟨Bool.eq_false_of_not_eq_true fun h => not_mem_of_isSingleDot h hmem,
      Bool.eq_false_of_not_eq_true fun h => not_mem_of_isDoubleDot h hmem⟩

/-! ## Names of directories -/

/-- A byte whose two digits are those of a dot. -/
theorem digits_of_dot {hi lo h l : UInt8} (hhi : Percent.hexValue? hi = some h)
    (hlo : Percent.hexValue? lo = some l) (hdot : h * 16 + l = 0x2E) :
    Char.ofNat hi.toNat = '2' ∧ (Char.ofNat lo.toNat = 'e' ∨ Char.ofNat lo.toNat = 'E') := by
  have hh := (Percent.isHexDigit_of_hexValue? hhi).2.2
  have hl := (Percent.isHexDigit_of_hexValue? hlo).2.2
  have hnat := congrArg UInt8.toNat hdot
  have h16 : (16 : UInt8).toNat = 16 := rfl
  have h46 : (0x2E : UInt8).toNat = 46 := rfl
  rw [UInt8.toNat_add, UInt8.toNat_mul, h16, h46] at hnat
  obtain rfl : h = 2 := UInt8.toNat_inj.mp (show h.toNat = 2 by omega)
  obtain rfl : l = 14 := UInt8.toNat_inj.mp (show l.toNat = 14 by omega)
  have htwo := Percent.of_byte (P := fun b => Percent.hexValue? b = some 2 →
    Char.ofNat b.toNat = '2') (by decide +kernel) hi
  have hfourteen := Percent.of_byte (P := fun b => Percent.hexValue? b = some 14 →
    Char.ofNat b.toNat = 'e' ∨ Char.ofNat b.toNat = 'E') (by decide +kernel) lo
  exact ⟨htwo hhi, hfourteen hlo⟩

/-- What reads as a dot is a dot, escaped or not. -/
theorem exists_dropDot? {cs : List Char} {bytes : List UInt8}
    (h : Percent.decodeBytes (Utf8.encode cs) = 0x2E :: bytes) :
    ∃ rest, dropDot? cs = some rest ∧ Percent.decodeBytes (Utf8.encode rest) = bytes := by
  cases cs with
  | nil =>
    rw [Utf8.encode_nil, Percent.decodeBytes_nil] at h
    cases h
  | cons c cs =>
    by_cases hpercent : c = '%'
    · subst hpercent
      rw [Percent.encode_percent] at h
      rcases Percent.decodeBytes_cons 0x25 (Utf8.encode cs) with
        ⟨hi, lo, tail, x, y, -, hbytes, hhi, hlo, hstep⟩ | ⟨-, hstep⟩
      · obtain ⟨hdot, htail⟩ := List.cons.inj (hstep.symm.trans h)
        obtain ⟨htwo, hfourteen⟩ := digits_of_dot hhi hlo hdot
        obtain ⟨rest, rfl, hrest⟩ :=
          Utf8.exists_cons_of_encode (Percent.isHexDigit_of_hexValue? hhi).1 hbytes
        obtain ⟨rest, rfl, rfl⟩ :=
          Utf8.exists_cons_of_encode (Percent.isHexDigit_of_hexValue? hlo).1 hrest
        refine ⟨rest, ?_, htail⟩
        rw [htwo]
        rcases hfourteen with he | he <;> rw [he] <;> rfl
      · exact absurd (List.cons.inj (hstep.symm.trans h)).1 (by decide)
    · rw [Percent.decodeBytes_encode_cons hpercent] at h
      by_cases hascii : c.toNat < 128
      · rw [Utf8.encodeChar_of_ascii hascii, List.singleton_append] at h
        obtain ⟨hbyte, hrest⟩ := List.cons.inj h
        obtain rfl : c = '.' := by
          by_contra hne
          exact Percent.byte_ne_of_ne hascii (by decide : '.'.toNat < 128) hne hbyte
        exact ⟨cs, rfl, hrest⟩
      · -- no byte of such a character is a dot
        obtain ⟨b, tail, hb⟩ := List.exists_cons_of_ne_nil (String.utf8EncodeChar_ne_nil (c := c))
        have hle := Utf8.le_of_mem_encodeChar (Nat.not_lt.mp hascii) (b := b) (by simp [hb])
        rw [hb, List.cons_append] at h
        rw [(List.cons.inj h).1] at hle
        exact absurd hle (by decide)

theorem eq_nil_of_decode {cs : List Char} (h : Percent.decode cs = "") : cs = [] := by
  have hlist := congrArg String.toList h
  rw [Percent.toList_decode] at hlist
  have hbytes := Utf8.eq_nil_of_decodeLossy hlist
  cases cs with
  | nil => rfl
  | cons c cs =>
    obtain ⟨b, tail, hb⟩ := List.exists_cons_of_ne_nil (String.utf8EncodeChar_ne_nil (c := c))
    have hencode : Utf8.encode (c :: cs) = b :: (tail ++ Utf8.encode cs) := by
      show String.utf8EncodeChar c ++ Utf8.encode cs = _
      rw [hb, List.cons_append]
    rw [hencode] at hbytes
    rcases Percent.decodeBytes_cons b (tail ++ Utf8.encode cs) with
      ⟨_, _, _, _, _, -, -, -, -, hstep⟩ | ⟨-, hstep⟩ <;>
    · rw [hstep] at hbytes
      cases hbytes

/-- **Only dots**, escaped or not, read as the name of a directory. -/
theorem isSingleDot_of_decode {cs : List Char} (h : Percent.decode cs = ".") :
    isSingleDot cs = true := by
  have hlist := congrArg String.toList h
  rw [Percent.toList_decode] at hlist
  obtain ⟨bytes, hbytes, hnil⟩ := Utf8.exists_cons_of_decodeLossy (by decide) hlist
  obtain ⟨rest, hfirst, hrest⟩ := exists_dropDot? hbytes
  rw [Utf8.eq_nil_of_decodeLossy hnil] at hrest
  have hempty : rest = [] := eq_nil_of_decode (by
    unfold Percent.decode
    rw [hrest, ← Utf8.encode_nil]
    exact Utf8.toStringLossy_encode "")
  rw [hempty] at hfirst
  exact decide_eq_true hfirst

theorem isDoubleDot_of_decode {cs : List Char} (h : Percent.decode cs = "..") :
    isDoubleDot cs = true := by
  have hlist := congrArg String.toList h
  rw [Percent.toList_decode] at hlist
  obtain ⟨bytes, hbytes, hdot⟩ := Utf8.exists_cons_of_decodeLossy (by decide) hlist
  obtain ⟨rest, hfirst, hrest⟩ := exists_dropDot? hbytes
  have hsingle : isSingleDot rest = true := by
    apply isSingleDot_of_decode
    unfold Percent.decode Utf8.toStringLossy
    rw [hrest, hdot]
    rfl
  unfold isDoubleDot
  rw [hfirst, Option.bind_some]
  exact hsingle

/-! ## What has been read -/

/-- **The host** that is read has been put into its final form, and **the path** has been
resolved. -/
theorem of_parse {text : List Char} {u : Url} (h : parse text = .ok u) :
    (∃ raw, parseHost raw = .ok u.host) ∧ ∃ raw, u.path = resolvePath raw := by
  unfold parse at h
  extract_lets cs authority tail finish at h
  obtain ⟨⟨information, rest⟩, hfinish⟩ : ∃ parts, finish parts = .ok u := by
    split at h
    · obtain ⟨parts, -, h⟩ := exists_of_bind h
      exact ⟨parts, h⟩
    · split at h
      · cases h
      · obtain ⟨parts, -, h⟩ := exists_of_bind h
        exact ⟨parts, h⟩
    · obtain ⟨parts, -, h⟩ := exists_of_bind h
      exact ⟨parts, h⟩
  simp only [finish] at hfinish
  generalize credentials information = names at hfinish
  obtain ⟨host, hhost, hfinish⟩ := exists_of_bind hfinish
  obtain ⟨⟨port, rest⟩, -, hfinish⟩ := exists_of_bind hfinish
  simp only at hfinish
  split at hfinish
  · cases hfinish
  · obtain rfl := Except.ok.inj hfinish
    exact ⟨⟨_, hhost⟩, _, rfl⟩

end Url

end SchemaKit.Connection
