import SchemaKit.Proofs.Escapes

/-!
# What decoding leaves alone

Every escape is three characters of ASCII and stands for one byte.  So a text that holds an escape
stands for a text with fewer characters of ASCII, and a text stands for itself exactly if no percent
sign in it has two hexadecimal digits behind it (`Percent.decode_eq_self_iff`).
-/

namespace SchemaKit

namespace Text.Utf8

/-! ## Characters of ASCII among bytes -/

/-- The number of bytes that are characters of ASCII. -/
def asciiCount (bytes : List UInt8) : Nat :=
  bytes.countP fun b => b < 0x80

@[simp] theorem asciiCount_nil : asciiCount [] = 0 := rfl

@[simp] theorem asciiCount_append (a b : List UInt8) :
    asciiCount (a ++ b) = asciiCount a + asciiCount b :=
  List.countP_append

theorem asciiCount_cons_le (b : UInt8) (bytes : List UInt8) :
    asciiCount (b :: bytes) ≤ asciiCount bytes + 1 := by
  unfold asciiCount
  rw [List.countP_cons]
  split <;> omega

theorem asciiCount_cons_of_lt {b : UInt8} (h : b < 0x80) (bytes : List UInt8) :
    asciiCount (b :: bytes) = asciiCount bytes + 1 :=
  List.countP_cons_of_pos (decide_eq_true h)

/-- The bytes of a character outside ASCII are no characters of ASCII. -/
theorem le_of_mem_encodeChar {c : Char} (hc : 128 ≤ c.toNat) {b : UInt8}
    (hb : b ∈ String.utf8EncodeChar c) : 128 ≤ b.toNat := by
  have hv : ¬c.val.toNat ≤ 127 := Nat.not_le.mpr hc
  have hbyte : ∀ {n : Nat}, 128 ≤ n → n < 256 → 128 ≤ (UInt8.ofNat n).toNat := by
    intro n hle hlt
    rw [UInt8.toNat_ofNat', Nat.mod_eq_of_lt hlt]
    exact hle
  unfold String.utf8EncodeChar at hb
  simp only [if_neg hv] at hb
  split at hb
  · simp only [List.mem_cons, List.not_mem_nil, or_false] at hb
    rcases hb with rfl | rfl <;> exact hbyte (by omega) (by omega)
  · split at hb
    · simp only [List.mem_cons, List.not_mem_nil, or_false] at hb
      rcases hb with rfl | rfl | rfl <;> exact hbyte (by omega) (by omega)
    · simp only [List.mem_cons, List.not_mem_nil, or_false] at hb
      rcases hb with rfl | rfl | rfl | rfl <;> exact hbyte (by omega) (by omega)

def isAscii (c : Char) : Bool :=
  c.toNat < 128

/-- The characters of ASCII in a text are those among its bytes. -/
theorem asciiCount_encode (cs : List Char) : asciiCount (encode cs) = cs.countP isAscii := by
  induction cs with
  | nil => rfl
  | cons c cs ih =>
    have hsplit : asciiCount (encode (c :: cs)) =
        asciiCount (String.utf8EncodeChar c) + asciiCount (encode cs) := asciiCount_append _ _
    have hchar : asciiCount (String.utf8EncodeChar c) = if c.toNat < 128 then 1 else 0 := by
      split
      · rename_i hc
        rw [encodeChar_of_ascii hc, asciiCount_cons_of_lt, asciiCount_nil]
        rw [UInt8.lt_iff_toNat_lt, UInt32.toNat_toUInt8]
        exact Nat.lt_of_le_of_lt (Nat.mod_le ..) hc
      · rename_i hc
        refine List.countP_eq_zero.mpr fun b hb => ?_
        have hle := le_of_mem_encodeChar (Nat.not_lt.mp hc) hb
        rw [decide_eq_true_eq, UInt8.lt_iff_toNat_lt, Nat.not_lt]
        exact hle
    rw [hsplit, hchar, ih, List.countP_cons]
    simp only [isAscii, decide_eq_true_eq]
    exact Nat.add_comm ..

/-- The character at the head of some bytes is written in front of the rest of them. -/
theorem eq_of_head? {bytes : List UInt8} {c : Char} (h : head? bytes = some c) :
    bytes = String.utf8EncodeChar c ++ bytes.drop c.utf8Size := by
  have hbytes := String.toByteArray_utf8EncodeChar_of_utf8DecodeChar?_eq_some h
  have hdata := congrArg (fun b => b.data.toList) hbytes
  simp only [List.data_toByteArray, ByteArray.data_extract, Array.toList_extract,
    List.extract_eq_take_drop, Nat.sub_zero, List.drop_zero, List.take_take] at hdata
  have hsize : min c.utf8Size 4 = c.utf8Size := Nat.min_eq_left (Char.utf8Size_le_four c)
  rw [hdata, hsize, List.take_append_drop]

/-- What stands behind the character at the head of some bytes. -/
theorem drop_of_head? {b : UInt8} {rest : List UInt8} {c : Char} (h : head? (b :: rest) = some c) :
    b :: rest = String.utf8EncodeChar c ++ rest.drop (c.utf8Size - 1) := by
  have hdrop : (b :: rest).drop c.utf8Size = rest.drop (c.utf8Size - 1) := by
    have hpos := c.utf8Size_pos
    obtain ⟨n, hn⟩ : ∃ n, c.utf8Size = n + 1 := ⟨c.utf8Size - 1, by omega⟩
    rw [hn, List.drop_succ_cons, Nat.add_sub_cancel]
  rw [← hdrop]
  exact eq_of_head? h

/-- No character of ASCII is read that has not been there. -/
theorem asciiCount_decodeLossy_le (bytes : List UInt8) :
    asciiCount (encode (decodeLossy bytes)) ≤ asciiCount bytes := by
  induction bytes using decodeLossy.induct with
  | case1 =>
    unfold decodeLossy
    exact Nat.le_refl _
  | case2 b rest c hhead ih =>
    have hbytes := drop_of_head? hhead
    unfold decodeLossy
    rw [hhead]
    calc
      asciiCount (encode (c :: decodeLossy (rest.drop (c.utf8Size - 1)))) =
          asciiCount (String.utf8EncodeChar c) +
            asciiCount (encode (decodeLossy (rest.drop (c.utf8Size - 1)))) :=
        asciiCount_append _ _
      _ ≤ asciiCount (String.utf8EncodeChar c) + asciiCount (rest.drop (c.utf8Size - 1)) :=
        Nat.add_le_add_left ih _
      _ = asciiCount (b :: rest) := by rw [hbytes, asciiCount_append]
  | case3 b rest hhead ih =>
    have hreplacement : asciiCount (String.utf8EncodeChar '\uFFFD') = 0 := by decide
    unfold decodeLossy
    rw [hhead]
    calc
      asciiCount (encode ('\uFFFD' :: decodeLossy (rest.drop (strayTail b rest)))) =
          asciiCount (String.utf8EncodeChar '\uFFFD') +
            asciiCount (encode (decodeLossy (rest.drop (strayTail b rest)))) :=
        asciiCount_append _ _
      _ = asciiCount (encode (decodeLossy (rest.drop (strayTail b rest)))) := by
        rw [hreplacement, Nat.zero_add]
      _ ≤ asciiCount (rest.drop (strayTail b rest)) := ih
      _ ≤ asciiCount (b :: rest) :=
        ((List.drop_sublist _ rest).trans (List.sublist_cons_self b rest)).countP_le

/-- A byte of ASCII at the head of a text's bytes is the first character of the text. -/
theorem exists_cons_of_encode {cs : List Char} {b : UInt8} {rest : List UInt8}
    (hb : b.toNat < 128) (h : encode cs = b :: rest) :
    ∃ tail, cs = Char.ofNat b.toNat :: tail ∧ encode tail = rest := by
  have hchar : (Char.ofNat b.toNat).val.toUInt8 = b ∧ (Char.ofNat b.toNat).toNat < 128 := by
    have hall : ∀ n < 128, (Char.ofNat (UInt8.ofNat n).toNat).val.toUInt8 = UInt8.ofNat n ∧
        (Char.ofNat (UInt8.ofNat n).toNat).toNat < 128 := by decide
    have hn := hall b.toNat hb
    rwa [UInt8.ofNat_toNat] at hn
  cases cs with
  | nil => cases h
  | cons c cs =>
    have hhead := head?_encodeChar c (encode cs)
    have hhead' := head?_encodeChar (Char.ofNat b.toNat) rest
    rw [encodeChar_of_ascii hchar.2, hchar.1, List.singleton_append, ← h] at hhead'
    obtain rfl := Option.some.inj (hhead.symm.trans hhead')
    rw [encode_cons_of_ascii hchar.2, hchar.1] at h
    exact ⟨cs, rfl, (List.cons.inj h).2⟩

theorem eq_nil_of_decodeLossy {bytes : List UInt8} (h : decodeLossy bytes = []) : bytes = [] := by
  cases bytes with
  | nil => rfl
  | cons b rest =>
    unfold decodeLossy at h
    split at h <;> cases h

/-- A character of ASCII that is read is the first of the bytes. -/
theorem exists_cons_of_decodeLossy {bytes : List UInt8} {c : Char} {cs : List Char}
    (hc : c.toNat < 128) (h : decodeLossy bytes = c :: cs) :
    ∃ rest, bytes = c.val.toUInt8 :: rest ∧ decodeLossy rest = cs := by
  cases bytes with
  | nil =>
    unfold decodeLossy at h
    cases h
  | cons b rest =>
    unfold decodeLossy at h
    split at h
    · rename_i d hhead
      obtain ⟨rfl, hrest⟩ := List.cons.inj h
      have hsize := String.length_utf8EncodeChar d
      rw [encodeChar_of_ascii hc] at hsize
      have hone : d.utf8Size = 1 := hsize.symm
      have hbytes := drop_of_head? hhead
      rw [hone, encodeChar_of_ascii hc] at hbytes
      rw [hone] at hrest
      exact ⟨rest, hbytes, hrest⟩
    · obtain ⟨rfl, -⟩ := List.cons.inj h
      exact absurd hc (by decide)

end Text.Utf8

namespace Connection.Percent

open Text
open Text.Utf8 (isAscii asciiCount asciiCount_encode asciiCount_append asciiCount_cons_le
  asciiCount_cons_of_lt decodeLossy decodeLossy_encode toStringLossy encodeChar_of_ascii
  encode_cons_of_ascii exists_cons_of_encode le_of_mem_encodeChar asciiCount_decodeLossy_le)

/-! ## Escapes -/

/-- A hexadecimal digit in either case. -/
def isHexDigit (c : Char) : Bool :=
  c.isDigit || ('a' ≤ c && c ≤ 'f') || ('A' ≤ c && c ≤ 'F')

/-- A text without a percent sign that has two hexadecimal digits behind it. -/
def IsUnescaped (cs : List Char) : Prop :=
  ∀ hi lo, ['%', hi, lo] <:+: cs → ¬(isHexDigit hi = true ∧ isHexDigit lo = true)

/-- What holds of the numbers of bytes holds of all bytes. -/
theorem of_byte {P : UInt8 → Prop} (h : ∀ n < 256, P (UInt8.ofNat n)) (b : UInt8) : P b := by
  have hP := h b.toNat b.toNat_lt
  rwa [UInt8.ofNat_toNat] at hP

/-- The bytes with a value are the digits of ASCII. -/
theorem isHexDigit_of_hexValue? {b d : UInt8} (h : hexValue? b = some d) :
    b.toNat < 128 ∧ isHexDigit (Char.ofNat b.toNat) = true ∧ d.toNat < 16 := by
  have hall := of_byte (P := fun b => ∀ d ∈ hexValue? b,
    b.toNat < 128 ∧ isHexDigit (Char.ofNat b.toNat) = true ∧ d.toNat < 16) (by decide +kernel) b
  exact hall d h

theorem hexValue?_of_isHexDigit {c : Char} (h : isHexDigit c = true) :
    c.toNat < 128 ∧ ∃ d, hexValue? c.val.toUInt8 = some d := by
  have hle : ∀ {a b : Char}, a ≤ b → a.toNat ≤ b.toNat := fun hab => hab
  have hlt : c.toNat < 128 := by
    have h9 : '9'.toNat = 57 := rfl
    have hf : 'f'.toNat = 102 := rfl
    have hF : 'F'.toNat = 70 := rfl
    simp only [isHexDigit, Bool.or_eq_true, Bool.and_eq_true, decide_eq_true_eq] at h
    rcases h with (h | h) | h
    · have hc := (Char.isDigit_iff_toNat.mp h).2
      omega
    · have hc := hle h.2
      omega
    · have hc := hle h.2
      omega
  have hall : ∀ n < 128, isHexDigit (Char.ofNat n) = true →
      (hexValue? (Char.ofNat n).val.toUInt8).isSome = true := by decide +kernel
  have hc := hall c.toNat hlt
  rw [Char.ofNat_toNat] at hc
  exact ⟨hlt, Option.isSome_iff_exists.mp (hc h)⟩

/-- **The first byte** begins an escape or stands for itself. -/
theorem decodeBytes_cons (b : UInt8) (rest : List UInt8) :
    (∃ hi lo tail h l, b = 0x25 ∧ rest = hi :: lo :: tail ∧ hexValue? hi = some h ∧
      hexValue? lo = some l ∧ decodeBytes (b :: rest) = (h * 16 + l) :: decodeBytes tail) ∨
    ((∀ hi lo tail, b = 0x25 → rest = hi :: lo :: tail →
      hexValue? hi = none ∨ hexValue? lo = none) ∧
      decodeBytes (b :: rest) = b :: decodeBytes rest) := by
  by_cases hb : b = 0x25
  · match rest with
    | [] =>
      refine .inr ⟨fun hi lo tail _ h => (by cases h), ?_⟩
      simp only [decodeBytes]
    | [c] =>
      refine .inr ⟨fun hi lo tail _ h => (by cases h), ?_⟩
      simp only [decodeBytes]
    | c :: d :: tail =>
      rw [decodeBytes, if_pos hb]
      cases hc : hexValue? c with
      | none =>
        refine .inr ⟨?_, rfl⟩
        rintro hi lo tail - h
        obtain rfl := (List.cons.inj h).1
        exact .inl hc
      | some x =>
        cases hd : hexValue? d with
        | none =>
          refine .inr ⟨?_, rfl⟩
          rintro hi lo tail - h
          obtain rfl := (List.cons.inj (List.cons.inj h).2).1
          exact .inr hd
        | some y => exact .inl ⟨c, d, tail, x, y, hb, rfl, hc, hd, rfl⟩
  · exact .inr ⟨fun hi lo tail h _ => absurd h hb, decodeBytes_cons_of_ne hb rest⟩

theorem asciiCount_escape {hi lo h l : UInt8} (hhi : hexValue? hi = some h)
    (hlo : hexValue? lo = some l) (tail : List UInt8) :
    asciiCount (0x25 :: hi :: lo :: tail) = asciiCount tail + 3 := by
  rw [asciiCount_cons_of_lt (by decide), asciiCount_cons_of_lt (isHexDigit_of_hexValue? hhi).1,
    asciiCount_cons_of_lt (isHexDigit_of_hexValue? hlo).1]

/-- Decoding makes no bytes that are characters of ASCII. -/
theorem asciiCount_decodeBytes_le (bytes : List UInt8) :
    asciiCount (decodeBytes bytes) ≤ asciiCount bytes := by
  -- an escape takes three bytes at once, so the induction is on the number of bytes
  induction hn : bytes.length using Nat.strongRecOn generalizing bytes with
  | _ n ih =>
    subst hn
    cases bytes with
    | nil => exact Nat.le_of_eq (congrArg asciiCount decodeBytes_nil)
    | cons b rest =>
      rcases decodeBytes_cons b rest with
        ⟨hi, lo, tail, h, l, rfl, rfl, hhi, hlo, hstep⟩ | ⟨-, hstep⟩
      -- three characters of ASCII are gone for one that may be made
      · have htail := ih tail.length (by simp only [List.length_cons]; omega) tail rfl
        have hle := asciiCount_cons_le (h * 16 + l) (decodeBytes tail)
        rw [hstep, asciiCount_escape hhi hlo]
        omega
      · have hrest := ih rest.length (by simp) rest rfl
        have hsplit : ∀ bytes, asciiCount (b :: bytes) = asciiCount [b] + asciiCount bytes :=
          fun bytes => asciiCount_append [b] bytes
        rw [hstep, hsplit, hsplit rest]
        omega

/-! ## Texts -/

/-- A character that is no percent sign stands for itself. -/
theorem decodeBytes_encode_cons {c : Char} (h : c ≠ '%') (cs : List Char) :
    decodeBytes (Utf8.encode (c :: cs)) =
      String.utf8EncodeChar c ++ decodeBytes (Utf8.encode cs) := by
  have hkept : ∀ bytes : List UInt8, (∀ b ∈ bytes, b ≠ 0x25) → ∀ rest,
      decodeBytes (bytes ++ rest) = bytes ++ decodeBytes rest := by
    intro bytes hbytes rest
    induction bytes with
    | nil => rfl
    | cons b bytes ih =>
      obtain ⟨hb, hbytes⟩ := List.forall_mem_cons.mp hbytes
      rw [List.cons_append, decodeBytes_cons_of_ne hb, ih hbytes, List.cons_append]
  refine hkept _ ?_ (Utf8.encode cs)
  rintro b hb rfl
  by_cases hc : c.toNat < 128
  · rw [encodeChar_of_ascii hc, List.mem_singleton] at hb
    exact byte_ne_of_ne hc (by decide : '%'.toNat < 128) h hb.symm
  · exact absurd (le_of_mem_encodeChar (Nat.not_lt.mp hc) hb) (by decide)

theorem encode_percent (cs : List Char) : Utf8.encode ('%' :: cs) = 0x25 :: Utf8.encode cs := rfl

theorem IsUnescaped.of_cons {c : Char} {cs : List Char} (h : IsUnescaped (c :: cs)) :
    IsUnescaped cs := fun hi lo hpart =>
  h hi lo (List.infix_cons_iff.mpr (.inr hpart))

/-- Bytes of digits behind a percent sign are characters of the text. -/
theorem exists_digits_of_encode {cs : List Char} {hi lo h l : UInt8} {tail : List UInt8}
    (hhi : hexValue? hi = some h) (hlo : hexValue? lo = some l)
    (hbytes : Utf8.encode cs = hi :: lo :: tail) :
    ∃ c d rest, cs = c :: d :: rest ∧ isHexDigit c = true ∧ isHexDigit d = true ∧
      Utf8.encode rest = tail := by
  obtain ⟨hhilt, hhidigit, -⟩ := isHexDigit_of_hexValue? hhi
  obtain ⟨hlolt, hlodigit, -⟩ := isHexDigit_of_hexValue? hlo
  obtain ⟨rest, rfl, hrest⟩ := exists_cons_of_encode hhilt hbytes
  obtain ⟨rest, rfl, htail⟩ := exists_cons_of_encode hlolt hrest
  exact ⟨_, _, rest, rfl, hhidigit, hlodigit, htail⟩

/-- **Without an escape** a text stands for itself. -/
theorem decodeBytes_of_isUnescaped {cs : List Char} (h : IsUnescaped cs) :
    decodeBytes (Utf8.encode cs) = Utf8.encode cs := by
  induction cs with
  | nil => exact decodeBytes_nil
  | cons c cs ih =>
    have htail := ih h.of_cons
    by_cases hc : c = '%'
    · subst hc
      rw [encode_percent]
      rcases decodeBytes_cons 0x25 (Utf8.encode cs) with
        ⟨hi, lo, tail, x, y, -, hbytes, hhi, hlo, -⟩ | ⟨-, hstep⟩
      -- a percent sign that begins an escape in the bytes begins one in the text
      · obtain ⟨c, d, rest, rfl, hc, hd, -⟩ := exists_digits_of_encode hhi hlo hbytes
        exact absurd ⟨hc, hd⟩ (h c d (List.prefix_append ['%', c, d] rest).isInfix)
      · rw [hstep, htail]
    · rw [decodeBytes_encode_cons hc, htail]
      rfl

/-- **An escape** leaves fewer characters of ASCII. -/
theorem asciiCount_decodeBytes_lt {cs : List Char} (h : ¬IsUnescaped cs) :
    asciiCount (decodeBytes (Utf8.encode cs)) < asciiCount (Utf8.encode cs) := by
  induction cs with
  | nil =>
    refine absurd ?_ h
    intro hi lo hpart
    cases List.infix_nil.mp hpart
  | cons c cs ih =>
    by_cases hescape : ∃ hi lo tail, c :: cs = '%' :: hi :: lo :: tail ∧ isHexDigit hi = true ∧
        isHexDigit lo = true
    · obtain ⟨hi, lo, tail, heq, hhi, hlo⟩ := hescape
      obtain ⟨hhilt, x, hx⟩ := hexValue?_of_isHexDigit hhi
      obtain ⟨hlolt, y, hy⟩ := hexValue?_of_isHexDigit hlo
      have hbytes : Utf8.encode (c :: cs) =
          0x25 :: hi.val.toUInt8 :: lo.val.toUInt8 :: Utf8.encode tail := by
        rw [heq, encode_percent, encode_cons_of_ascii hhilt, encode_cons_of_ascii hlolt]
      have hstep : decodeBytes (Utf8.encode (c :: cs)) =
          (x * 16 + y) :: decodeBytes (Utf8.encode tail) := by
        rw [hbytes, decodeBytes, if_pos rfl, hx, hy]
      have hle := asciiCount_cons_le (x * 16 + y) (decodeBytes (Utf8.encode tail))
      have hcount := asciiCount_decodeBytes_le (Utf8.encode tail)
      rw [hstep, hbytes, asciiCount_escape hx hy]
      omega
    · have hrest : ¬IsUnescaped cs := by
        intro hrest
        refine h fun hi lo hpart hdigits => ?_
        rcases List.infix_cons_iff.mp hpart with hhead | hpart
        · obtain ⟨tail, htail⟩ := hhead
          exact hescape ⟨hi, lo, tail, htail.symm, hdigits⟩
        · exact hrest hi lo hpart hdigits
      have hlt := ih hrest
      have hsplit : asciiCount (Utf8.encode (c :: cs)) =
          asciiCount (String.utf8EncodeChar c) + asciiCount (Utf8.encode cs) := asciiCount_append _ _
      by_cases hc : c = '%'
      · subst hc
        rw [encode_percent]
        rcases decodeBytes_cons 0x25 (Utf8.encode cs) with
          ⟨hi, lo, tail, x, y, -, hbytes, hhi, hlo, -⟩ | ⟨-, hstep⟩
        · obtain ⟨c, d, rest, rfl, hc, hd, -⟩ := exists_digits_of_encode hhi hlo hbytes
          exact absurd ⟨c, d, rest, rfl, hc, hd⟩ hescape
        · rw [hstep, asciiCount_cons_of_lt (by decide), asciiCount_cons_of_lt (by decide)]
          omega
      · rw [decodeBytes_encode_cons hc, asciiCount_append, hsplit]
        omega

theorem toList_decode (cs : List Char) :
    (decode cs).toList = decodeLossy (decodeBytes (Utf8.encode cs)) := by
  unfold decode toStringLossy
  rw [String.toList_ofList]

theorem countP_decode_le (cs : List Char) :
    (decode cs).toList.countP isAscii ≤ cs.countP isAscii := by
  rw [toList_decode, ← asciiCount_encode, ← asciiCount_encode]
  exact Nat.le_trans (asciiCount_decodeLossy_le _) (asciiCount_decodeBytes_le _)

/-- Decoding an escape leaves fewer characters of ASCII. -/
theorem countP_decode_lt {cs : List Char} (h : ¬IsUnescaped cs) :
    (decode cs).toList.countP isAscii < cs.countP isAscii := by
  rw [toList_decode, ← asciiCount_encode, ← asciiCount_encode]
  exact Nat.lt_of_le_of_lt (asciiCount_decodeLossy_le _) (asciiCount_decodeBytes_lt h)

/-- **A text stands for itself** exactly if there is no escape in it. -/
theorem decode_eq_self_iff {cs : List Char} : (decode cs).toList = cs ↔ IsUnescaped cs := by
  constructor
  · intro h
    -- a text with an escape would have fewer characters of ASCII than itself
    refine Classical.byContradiction fun hescape => ?_
    have hlt := countP_decode_lt hescape
    rw [h] at hlt
    exact Nat.lt_irrefl _ hlt
  · intro h
    rw [toList_decode, decodeBytes_of_isUnescaped h, decodeLossy_encode]

end Connection.Percent

end SchemaKit
