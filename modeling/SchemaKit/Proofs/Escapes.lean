import SchemaKit.Connection.Percent
import SchemaKit.Proofs.Pieces

/-!
# Escaped text

The bytes of a text read back as this text (`Utf8.decodeLossy_encode`), and so does a text in which
all but the letters and digits of ASCII is escaped (`Percent.decode_encode`).  What is written there
holds letters, digits and percent signs only (`Percent.isCoded_of_mem_encode`).
-/

namespace SchemaKit

namespace Text.Utf8

/-- A character stands at the head of its own bytes, whatever follows. -/
theorem head?_encodeChar (c : Char) (rest : List UInt8) :
    head? (String.utf8EncodeChar c ++ rest) = some c := by
  have hlength : (String.utf8EncodeChar c).length ≤ 4 := by
    rw [String.length_utf8EncodeChar]
    exact Char.utf8Size_le_four c
  have hbytes : (⟨((String.utf8EncodeChar c ++ rest).take 4).toArray⟩ : ByteArray) =
      (String.utf8EncodeChar c).toByteArray ++
        ⟨(rest.take (4 - (String.utf8EncodeChar c).length)).toArray⟩ := by
    apply ByteArray.ext
    rw [ByteArray.data_append, List.data_toByteArray, List.take_append,
      List.take_of_length_le hlength, List.append_toArray]
  unfold head?
  rw [hbytes]
  exact ByteArray.utf8DecodeChar?_utf8EncodeChar_append

/-- **Text reads back** from its bytes. -/
theorem decodeLossy_encode (cs : List Char) : decodeLossy (encode cs) = cs := by
  induction cs with
  | nil =>
    unfold decodeLossy
    rfl
  | cons c cs ih =>
    -- the first character takes its own bytes, so that the rest begins where the text goes on
    have hsplit : encode (c :: cs) = String.utf8EncodeChar c ++ encode cs := rfl
    have hhead := head?_encodeChar c (encode cs)
    have hlength := String.length_utf8EncodeChar c
    rw [hsplit]
    cases hbytes : String.utf8EncodeChar c with
    | nil => exact absurd hbytes String.utf8EncodeChar_ne_nil
    | cons b tail =>
      rw [hbytes] at hhead hlength
      have htail : tail.length = c.utf8Size - 1 := by
        rw [List.length_cons] at hlength
        omega
      rw [List.cons_append] at hhead ⊢
      unfold decodeLossy
      rw [hhead]
      simp only
      rw [← htail, List.drop_left, ih]

theorem toStringLossy_encode (s : String) : toStringLossy (encode s.toList) = s := by
  unfold toStringLossy
  rw [decodeLossy_encode, String.ofList_toList]

theorem encodeChar_of_ascii {c : Char} (h : c.toNat < 128) :
    String.utf8EncodeChar c = [c.val.toUInt8] := by
  apply String.utf8EncodeChar_eq_singleton
  rw [Char.utf8Size_eq_one_iff, UInt32.le_iff_toNat_le]
  exact Nat.le_of_lt_succ h

theorem encode_cons_of_ascii {c : Char} (h : c.toNat < 128) (cs : List Char) :
    encode (c :: cs) = c.val.toUInt8 :: encode cs := by
  unfold encode
  rw [List.flatMap_cons, encodeChar_of_ascii h, List.singleton_append]

end Text.Utf8

namespace Connection.Percent

open Text

/-! ## Letters and digits -/

/-- The byte of a character of ASCII tells it from all others of ASCII. -/
theorem byte_ne_of_ne {c d : Char} (hc : c.toNat < 128) (hd : d.toNat < 128) (hne : c ≠ d) :
    c.val.toUInt8 ≠ d.val.toUInt8 := by
  intro hbyte
  have hnat := congrArg UInt8.toNat hbyte
  rw [UInt32.toNat_toUInt8, UInt32.toNat_toUInt8] at hnat
  have hc' : c.val.toNat < 128 := hc
  have hd' : d.val.toNat < 128 := hd
  rw [Nat.mod_eq_of_lt (by omega), Nat.mod_eq_of_lt (by omega)] at hnat
  exact hne (Char.ext (UInt32.toNat_inj.mp hnat))

/-- What holds of the numbers below sixteen holds of all that fits into a hexadecimal digit. -/
theorem of_lt_sixteen {P : UInt8 → Prop} (h : ∀ n < 16, P (UInt8.ofNat n)) {b : UInt8}
    (hb : b.toNat < 16) : P b := by
  have hP := h b.toNat hb
  rwa [UInt8.ofNat_toNat] at hP

theorem isAlphanum_hexDigit {n : UInt8} (h : n.toNat < 16) : (hexDigit n).isAlphanum = true :=
  of_lt_sixteen (P := fun n => (hexDigit n).isAlphanum = true) (by decide) h

theorem hexValue?_hexDigit {n : UInt8} (h : n.toNat < 16) :
    hexValue? (hexDigit n).val.toUInt8 = some n :=
  of_lt_sixteen (P := fun n => hexValue? (hexDigit n).val.toUInt8 = some n) (by decide) h

theorem toNat_high (b : UInt8) : (b >>> 4).toNat = b.toNat / 16 := by
  rw [UInt8.toNat_shiftRight, Nat.shiftRight_eq_div_pow]
  rfl

theorem toNat_low (b : UInt8) : (b &&& 0x0F).toNat = b.toNat % 16 := by
  rw [UInt8.toNat_and]
  exact Nat.and_two_pow_sub_one_eq_mod b.toNat 4

/-- A byte is put together again from its two digits. -/
theorem high_mul_add_low (b : UInt8) : (b >>> 4) * 16 + (b &&& 0x0F) = b := by
  apply UInt8.toNat_inj.mp
  have hb : b.toNat < 256 := b.toNat_lt
  have h16 : (16 : UInt8).toNat = 16 := rfl
  rw [UInt8.toNat_add, UInt8.toNat_mul, toNat_high, toNat_low, h16]
  omega

/-! ## Reading back -/

theorem decodeBytes_nil : decodeBytes [] = [] := by
  simp only [decodeBytes]

theorem decodeBytes_cons_of_ne {b : UInt8} (h : b ≠ 0x25) (rest : List UInt8) :
    decodeBytes (b :: rest) = b :: decodeBytes rest := by
  match rest with
  | [] => simp only [decodeBytes]
  | [c] => simp only [decodeBytes]
  | c :: d :: rest =>
    rw [decodeBytes, if_neg h]

/-- **An escaped byte reads back**, whatever follows. -/
theorem decodeBytes_escapeByte (b : UInt8) (rest : List UInt8) :
    decodeBytes (Utf8.encode (escapeByte b) ++ rest) = b :: decodeBytes rest := by
  have hb : b.toNat < 256 := b.toNat_lt
  have hhigh : (b >>> 4).toNat < 16 := by
    rw [toNat_high]
    omega
  have hlow : (b &&& 0x0F).toNat < 16 := by
    rw [toNat_low]
    omega
  have hdigit : ∀ {n : UInt8}, n.toNat < 16 →
      String.utf8EncodeChar (hexDigit n) = [(hexDigit n).val.toUInt8] := fun hn =>
    Utf8.encodeChar_of_ascii (toNat_lt_of_isAlphanum (isAlphanum_hexDigit hn))
  have hbytes : Utf8.encode (escapeByte b) =
      [(0x25 : UInt8), (hexDigit (b >>> 4)).val.toUInt8, (hexDigit (b &&& 0x0F)).val.toUInt8] := by
    unfold escapeByte Utf8.encode
    rw [List.flatMap_cons, List.flatMap_cons, List.flatMap_singleton, hdigit hhigh, hdigit hlow]
    rfl
  rw [hbytes, List.cons_append, List.cons_append, List.singleton_append, decodeBytes, if_pos rfl,
    hexValue?_hexDigit hhigh, hexValue?_hexDigit hlow]
  simp only
  rw [high_mul_add_low]

theorem decodeBytes_flatMap_escapeByte (bytes rest : List UInt8) :
    decodeBytes (Utf8.encode (bytes.flatMap escapeByte) ++ rest) = bytes ++ decodeBytes rest := by
  induction bytes with
  | nil => rfl
  | cons b bytes ih =>
    rw [List.flatMap_cons, Utf8.encode_append, List.append_assoc, decodeBytes_escapeByte, ih,
      List.cons_append]

/-- A character is read back byte by byte, whether it has been escaped or not. -/
theorem decodeBytes_encodeChar (c : Char) (rest : List UInt8) :
    decodeBytes (Utf8.encode (encodeChar c) ++ rest) =
      String.utf8EncodeChar c ++ decodeBytes rest := by
  unfold encodeChar
  by_cases hc : c.isAlphanum = true
  · have hascii := toNat_lt_of_isAlphanum hc
    have hpercent : c ≠ '%' := by
      rintro rfl
      exact absurd hc (by decide)
    have hbyte : c.val.toUInt8 ≠ 0x25 := byte_ne_of_ne (d := '%') hascii (by decide) hpercent
    rw [if_pos hc, Utf8.encode_cons_of_ascii hascii, Utf8.encodeChar_of_ascii hascii,
      Utf8.encode_nil, List.singleton_append, decodeBytes_cons_of_ne hbyte, List.singleton_append]
  · rw [if_neg hc, decodeBytes_flatMap_escapeByte]

theorem decodeBytes_encode (cs : List Char) :
    decodeBytes (Utf8.encode (cs.flatMap encodeChar)) = Utf8.encode cs := by
  induction cs with
  | nil => rw [List.flatMap_nil, Utf8.encode_nil, decodeBytes_nil]
  | cons c cs ih =>
    rw [List.flatMap_cons, Utf8.encode_append, decodeBytes_encodeChar, ih]
    rfl

/-- **Escaped text reads back.** -/
theorem decode_encode (s : String) : decode (encode s).toList = s := by
  unfold decode encode
  rw [String.toList_ofList, decodeBytes_encode, Utf8.toStringLossy_encode]

/-- Text of ASCII without percent signs stands for itself. -/
theorem decode_of_plain {cs : List Char} (h : ∀ c ∈ cs, c.toNat < 128 ∧ c ≠ '%') :
    decode cs = String.ofList cs := by
  have hbytes : decodeBytes (Utf8.encode cs) = Utf8.encode cs := by
    induction cs with
    | nil => rw [Utf8.encode_nil, decodeBytes_nil]
    | cons c cs ih =>
      obtain ⟨⟨hascii, hpercent⟩, hrest⟩ := List.forall_mem_cons.mp h
      have hbyte : c.val.toUInt8 ≠ 0x25 := byte_ne_of_ne (d := '%') hascii (by decide) hpercent
      rw [Utf8.encode_cons_of_ascii hascii, decodeBytes_cons_of_ne hbyte, ih hrest]
  unfold decode Utf8.toStringLossy
  rw [hbytes, Utf8.decodeLossy_encode]

/-! ## What is written -/

/-- A character that stands in an escaped text. -/
def isCoded (c : Char) : Bool :=
  c.isAlphanum || c == '%'

theorem isCoded_of_mem_escapeByte {b : UInt8} {c : Char} (h : c ∈ escapeByte b) :
    isCoded c = true := by
  have hb : b.toNat < 256 := b.toNat_lt
  have hhigh : (b >>> 4).toNat < 16 := by
    rw [toNat_high]
    omega
  have hlow : (b &&& 0x0F).toNat < 16 := by
    rw [toNat_low]
    omega
  unfold isCoded
  simp only [escapeByte, List.mem_cons, List.not_mem_nil, or_false] at h
  rcases h with rfl | rfl | rfl
  · rfl
  · rw [isAlphanum_hexDigit hhigh, Bool.true_or]
  · rw [isAlphanum_hexDigit hlow, Bool.true_or]

/-- **Escaped text** is made of letters, digits and percent signs. -/
theorem isCoded_of_mem_encode {s : String} {c : Char} (h : c ∈ (encode s).toList) :
    isCoded c = true := by
  unfold encode at h
  rw [String.toList_ofList, List.mem_flatMap] at h
  obtain ⟨d, -, hc⟩ := h
  unfold encodeChar at hc
  by_cases hd : d.isAlphanum = true
  · rw [if_pos hd, List.mem_singleton] at hc
    unfold isCoded
    rw [hc, hd, Bool.true_or]
  · rw [if_neg hd, List.mem_flatMap] at hc
    obtain ⟨b, -, hb⟩ := hc
    exact isCoded_of_mem_escapeByte hb

theorem encode_ne_nil {s : String} (h : s ≠ "") : (encode s).toList ≠ [] := by
  intro hnil
  have hempty := decode_encode s
  rw [hnil] at hempty
  exact h (hempty.symm.trans (decode_of_plain (List.forall_mem_nil _)))

end Connection.Percent

end SchemaKit
