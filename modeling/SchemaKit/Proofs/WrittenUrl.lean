import Mathlib.Data.List.TakeWhile
import SchemaKit.Connection.Url
import SchemaKit.Proofs.Escapes
import SchemaKit.Proofs.Pieces

/-!
# Written URLs

`Url.write` puts the parts of a URL together.  If no part in front of the query holds what would end
it early (`Url.IsWritable`), these parts are taken apart as they were, and all that happens to them is
that the dots of the path are resolved.  The query may be any text: it ends at the first hash, and
what counts for nothing is left out of it (`Url.parse_write`).
-/

namespace SchemaKit.Connection

namespace Url

/-- User and password as they stand in front of a host. -/
def information (u : Url) : List Char :=
  match u.password with
  | some password => u.user ++ ':' :: password
  | none => u.user

/-- A port as it stands behind a host, if there is one. -/
def portText : Option UInt16 → List Char
  | some port => ':' :: Nat.toDigits 10 port.toNat
  | none => []

/-- A query as it stands behind a path, if there is one. -/
def queryText : Option (List Char) → List Char
  | some query => '?' :: query
  | none => []

/-- What stands in front of the path. -/
def authority (u : Url) : List Char :=
  u.information ++ '@' :: (u.host ++ portText u.port)

/-- The parts of a URL in a row. -/
def write (u : Url) : List Char :=
  u.authority ++ (u.path ++ queryText u.query)

/-! ## Characters -/

/-- A character that ends neither user information nor an authority, and is kept wherever it
stands. -/
def isClear (c : Char) : Bool :=
  ' ' < c && !endsAuthority c && c != '@'

theorem lt_of_isClear {c : Char} (h : isClear c = true) : ' ' < c := by
  simp only [isClear, Bool.and_eq_true, decide_eq_true_eq] at h
  exact h.1.1

theorem endsAuthority_of_isClear {c : Char} (h : isClear c = true) : endsAuthority c = false := by
  simp only [isClear, Bool.and_eq_true, Bool.not_eq_true'] at h
  exact h.1.2

theorem ne_at_of_isClear {c : Char} (h : isClear c = true) : c ≠ '@' := by
  simp only [isClear, Bool.and_eq_true, bne_iff_ne] at h
  exact h.2

/-- A letter, a digit, a dot or a hyphen: a character that means nothing but itself. -/
def isPlain (c : Char) : Bool :=
  c.isAlphanum || c == '.' || c == '-'

theorem isPlain_of_isAlphanum {c : Char} (h : c.isAlphanum = true) : isPlain c = true := by
  unfold isPlain
  rw [h, Bool.true_or, Bool.true_or]

theorem toNat_lt_of_isPlain {c : Char} (h : isPlain c = true) : c.toNat < 128 := by
  simp only [isPlain, Bool.or_eq_true, beq_iff_eq] at h
  rcases h with (h | rfl) | rfl
  · exact Text.toNat_lt_of_isAlphanum h
  · decide
  · decide

/-- What holds of the plain characters of ASCII one by one holds of all plain characters. -/
theorem of_isPlain {P : Char → Prop}
    (h : ∀ n < 128, isPlain (Char.ofNat n) = true → P (Char.ofNat n)) {c : Char}
    (hc : isPlain c = true) : P c := by
  have hP := h c.toNat (toNat_lt_of_isPlain hc)
  rw [Char.ofNat_toNat] at hP
  exact hP hc

theorem isClear_of_isPlain {c : Char} (h : isPlain c = true) : isClear c = true :=
  of_isPlain (P := fun c => isClear c = true) (by decide +kernel) h

theorem isClear_of_isCoded {c : Char} (h : Percent.isCoded c = true) : isClear c = true := by
  unfold Percent.isCoded at h
  rw [Bool.or_eq_true, beq_iff_eq] at h
  rcases h with h | rfl
  · exact isClear_of_isPlain (isPlain_of_isAlphanum h)
  · decide

/-- Characters that a test tells apart. -/
theorem ne_of_true_of_false {p : Char → Bool} {c d : Char} (hc : p c = true) (hd : p d = false) :
    c ≠ d := by
  rintro rfl
  rw [hc] at hd
  cases hd

/-! ## Cutting -/

section Cutting

variable {a b : List Char} {c : Char}

/-- Text without blanks, tabs and line breaks is kept, whatever stands behind it. -/
theorem clean_append (h : ∀ c ∈ a, ' ' < c) (b : List Char) : clean (a ++ b) = a ++ clean b := by
  -- neither what is trimmed at the end nor what is ignored inside stands in the front part
  have hstop : a.reverse.dropWhile isControlOrSpace = a.reverse := by
    cases ha : a.reverse with
    | nil => rfl
    | cons c rest =>
      have hc : c ∈ a := List.mem_reverse.mp (ha ▸ List.mem_cons_self ..)
      have hlt : ¬c ≤ ' ' := Char.not_le.mpr (h c hc)
      exact List.dropWhile_cons_of_neg (by simpa [isControlOrSpace] using hlt)
  have hend : (a ++ b).reverse.dropWhile isControlOrSpace =
      b.reverse.dropWhile isControlOrSpace ++ a.reverse := by
    rw [List.reverse_append, List.dropWhile_append]
    split
    · rename_i hnil
      rw [List.isEmpty_iff.mp hnil, hstop, List.nil_append]
    · rfl
  have hkept : a.filter (fun c => !isIgnored c) = a := by
    rw [List.filter_eq_self]
    intro c hc
    have hlt := h c hc
    have hne : ∀ d : Char, ¬(' ' < d) → c ≠ d := by
      rintro d hd rfl
      exact hd hlt
    simp [isIgnored, hne '\t' (by decide), hne '\n' (by decide), hne '\r' (by decide)]
  unfold clean
  rw [hend, List.reverse_append, List.reverse_reverse, List.filter_append, hkept]

theorem splitLast_append_cons (hb : c ∉ b) : splitLast c (a ++ c :: b) = some (a, b) := by
  -- seen from behind, what follows the last delimiter is in front of the first
  have htail : ((a ++ c :: b).reverse.takeWhile (· != c)).reverse = b := by
    have hreverse : (a ++ c :: b).reverse = b.reverse ++ c :: a.reverse := by simp
    rw [hreverse, Text.takeWhile_append_cons, List.reverse_reverse]
    · intro x hx
      rw [bne_iff_ne]
      rintro rfl
      exact hb (List.mem_reverse.mp hx)
    · simp
  have hlength : (a ++ c :: b).length - b.length - 1 = a.length := by
    rw [List.length_append, List.length_cons]
    omega
  unfold splitLast
  rw [if_pos (by simp), htail]
  simp only [hlength, List.take_left]

end Cutting

/-! ## Authority -/

/-- A host that is read as it is. -/
structure IsSettled (host : List Char) : Prop where
  ne_nil : host ≠ []
  clear : ∀ c ∈ host, isClear c = true
  split : ∀ rest, splitHost false (host ++ ':' :: rest) = (host, ':' :: rest)
  parse : parseHost host = .ok host

/-- A character that a host holds as it is: it is neither forbidden there nor escaped. -/
def isHostChar (c : Char) : Bool :=
  !isForbidden c && !isEscaped c

theorem isHostChar_of_isPlain {c : Char} (h : isPlain c = true) : isHostChar c = true :=
  of_isPlain (P := fun c => isHostChar c = true) (by decide +kernel) h

theorem isForbidden_of_isHostChar {c : Char} (h : isHostChar c = true) : isForbidden c = false := by
  simp only [isHostChar, Bool.and_eq_true, Bool.not_eq_true'] at h
  exact h.1

theorem isEscaped_of_isHostChar {c : Char} (h : isHostChar c = true) : isEscaped c = false := by
  simp only [isHostChar, Bool.and_eq_true, Bool.not_eq_true'] at h
  exact h.2

theorem isClear_of_isHostChar {c : Char} (h : isHostChar c = true) : isClear c = true := by
  -- all beyond ASCII would be escaped, so the rest is a check of finitely many
  have hlt : c.toNat < 128 := by
    have hescaped := isEscaped_of_isHostChar h
    simp only [isEscaped, Bool.or_eq_false_iff, decide_eq_false_iff_not] at hescaped
    omega
  have hall : ∀ n < 128, isHostChar (Char.ofNat n) = true → isClear (Char.ofNat n) = true := by
    decide +kernel
  have hc := hall c.toNat hlt
  rw [Char.ofNat_toNat] at hc
  exact hc h

theorem opaqueHost_eq_self {host : List Char} (h : ∀ c ∈ host, isHostChar c = true) :
    opaqueHost host = host := by
  unfold opaqueHost
  induction host with
  | nil => rfl
  | cons c rest ih =>
    rw [List.forall_mem_cons] at h
    rw [List.flatMap_cons, isEscaped_of_isHostChar h.1, ih h.2]
    rfl

/-- **Hosts of characters that a host holds as they are** are read as they are. -/
theorem isSettled_of_isHostChar {host : List Char} (hne : host ≠ [])
    (h : ∀ c ∈ host, isHostChar c = true) : IsSettled host := by
  have hbracket : ∀ c ∈ host, c ≠ '[' := fun c hc =>
    ne_of_true_of_false (h c hc) (by decide)
  refine ⟨hne, fun c hc => isClear_of_isHostChar (h c hc), fun rest => ?_, ?_⟩
  -- the rest of a host may be empty
  · clear hne
    induction host with
    | nil => simp [splitHost]
    | cons c tail ih =>
      rw [List.forall_mem_cons] at h hbracket
      have hcolon : c ≠ ':' := ne_of_true_of_false h.1 (by decide)
      have hends := endsAuthority_of_isClear (isClear_of_isHostChar h.1)
      rw [List.cons_append, splitHost]
      simp only [hends, hcolon, hbracket.1, decide_false, Bool.false_and, Bool.or_self,
        Bool.false_eq_true, if_false]
      rw [ih h.2 hbracket.2]
  · have hhead : host.head? ≠ some '[' := fun hhead =>
      hbracket '[' (List.mem_of_mem_head? hhead) rfl
    have hforbidden : host.any isForbidden = false := by
      rw [List.any_eq_false]
      intro c hc
      rw [isForbidden_of_isHostChar (h c hc)]
      exact Bool.false_ne_true
    unfold parseHost
    rw [if_neg hhead, hforbidden, opaqueHost_eq_self h]
    rfl

/-- **Hosts of letters, digits, dots and hyphens** are read as they are. -/
theorem isSettled_of_isPlain {host : List Char} (hne : host ≠ [])
    (h : ∀ c ∈ host, isPlain c = true) : IsSettled host :=
  isSettled_of_isHostChar hne fun c hc => isHostChar_of_isPlain (h c hc)

theorem isDigit_of_mem_portText {port : UInt16} {c : Char} (h : c ∈ Nat.toDigits 10 port.toNat) :
    c.isDigit = true :=
  Nat.isDigit_of_mem_toDigits (by decide) (by decide) h

theorem isPlain_of_isDigit {c : Char} (h : c.isDigit = true) : isPlain c = true := by
  apply isPlain_of_isAlphanum
  unfold Char.isAlphanum
  rw [h, Bool.or_true]

/-- **A port** is read back from its digits. -/
theorem parsePort_toDigits (port : UInt16) :
    parsePort (Nat.toDigits 10 port.toNat) = .ok (some port) := by
  have hall : (Nat.toDigits 10 port.toNat).all Char.isDigit = true :=
    List.all_eq_true.mpr fun c hc => isDigit_of_mem_portText hc
  have hempty : (Nat.toDigits 10 port.toNat).isEmpty = false := by
    rw [List.isEmpty_eq_false_iff]
    exact Nat.toDigits_ne_nil
  have hle : ¬65535 < port.toNat := by
    have hlt := port.toNat_lt
    omega
  unfold parsePort
  simp only [hall, Nat.ofDigitChars_ten_toDigits, hempty, if_neg hle]
  rw [show port.toNat.toUInt16 = port from UInt16.ofNat_toNat]
  rfl

/-! ## The whole -/

/-- A URL no part of which holds what would end it early, the query perhaps apart. -/
structure IsWritable (u : Url) : Prop where
  user_ne_nil : u.user ≠ []
  user : ∀ c ∈ u.user, Percent.isCoded c = true
  password : ∀ password, u.password = some password →
    password ≠ [] ∧ ∀ c ∈ password, Percent.isCoded c = true
  host : IsSettled u.host
  port : ∃ port, u.port = some port
  path : ∃ segment, u.path = '/' :: segment ∧ ∀ c ∈ segment, Percent.isCoded c = true

namespace IsWritable

variable {u : Url} (h : u.IsWritable)
include h

theorem information_ne_nil : u.information ≠ [] := by
  unfold information
  cases u.password with
  | none => exact h.user_ne_nil
  | some password => exact List.append_ne_nil_of_left_ne_nil h.user_ne_nil _

theorem isEmpty_host : u.host.isEmpty = false := by
  rw [List.isEmpty_eq_false_iff]
  exact h.host.ne_nil

theorem clear_of_mem_information {c : Char} (hc : c ∈ u.information) : isClear c = true := by
  unfold information at hc
  cases hpassword : u.password with
  | none =>
    rw [hpassword] at hc
    exact isClear_of_isCoded (h.user c hc)
  | some password =>
    rw [hpassword] at hc
    rcases List.mem_append.mp hc with hc | hc
    · exact isClear_of_isCoded (h.user c hc)
    · rcases List.mem_cons.mp hc with rfl | hc
      · decide
      · exact isClear_of_isCoded ((h.password password hpassword).2 c hc)

theorem credentials_information : credentials u.information = (u.user, u.password) := by
  have huser : ∀ c ∈ u.user, (c != ':') = true := by
    intro c hc
    rw [bne_iff_ne]
    exact ne_of_true_of_false (h.user c hc) (by decide)
  unfold credentials information splitFirst
  cases hpassword : u.password with
  | none =>
    simp only
    rw [List.takeWhile_eq_self_iff.mpr huser, List.dropWhile_eq_nil_iff.mpr huser]
    rfl
  | some password =>
    have hne := (h.password password hpassword).1
    simp only
    rw [Text.takeWhile_append_cons huser (by decide), Text.dropWhile_append_cons huser (by decide)]
    simp [hne]

theorem clear_of_mem_port {c : Char} (hc : c ∈ u.host ++ portText u.port) :
    isClear c = true := by
  obtain ⟨port, hport⟩ := h.port
  rw [hport] at hc
  rcases List.mem_append.mp hc with hc | hc
  · exact h.host.clear c hc
  · rcases List.mem_cons.mp hc with rfl | hc
    · decide
    · exact isClear_of_isPlain (isPlain_of_isDigit (isDigit_of_mem_portText hc))

theorem endsAuthority_of_mem_authority {c : Char} (hc : c ∈ u.authority) :
    endsAuthority c = false := by
  rcases List.mem_append.mp hc with hc | hc
  · exact endsAuthority_of_isClear (h.clear_of_mem_information hc)
  · rcases List.mem_cons.mp hc with rfl | hc
    · decide
    · exact endsAuthority_of_isClear (h.clear_of_mem_port hc)

theorem lt_of_mem_front {c : Char} (hc : c ∈ u.authority ++ u.path) : ' ' < c := by
  obtain ⟨segment, hpath, hsegment⟩ := h.path
  rcases List.mem_append.mp hc with hc | hc
  · rcases List.mem_append.mp hc with hc | hc
    · exact lt_of_isClear (h.clear_of_mem_information hc)
    · rcases List.mem_cons.mp hc with rfl | hc
      · decide
      · exact lt_of_isClear (h.clear_of_mem_port hc)
  · rw [hpath] at hc
    rcases List.mem_cons.mp hc with rfl | hc
    · decide
    · exact lt_of_isClear (isClear_of_isCoded (hsegment c hc))

/-- Only in the query may there be anything that counts for nothing. -/
theorem clean_write : clean u.write = u.authority ++ (u.path ++ queryText (u.query.map clean)) := by
  have hwrite : u.write = (u.authority ++ u.path) ++ queryText u.query :=
    (List.append_assoc ..).symm
  rw [hwrite, clean_append fun c hc => h.lt_of_mem_front hc, List.append_assoc]
  cases u.query with
  | none => rfl
  | some query =>
    have hmark : ∀ c ∈ ['?'], ' ' < c := List.forall_mem_singleton.mpr (by decide)
    exact congrArg (fun text => u.authority ++ (u.path ++ text)) (clean_append hmark query)

variable (query : Option (List Char))

/-- Port and path are divided where they have been put together. -/
theorem portAndRest_write : portAndRest u.host (portText u.port ++ (u.path ++ queryText query)) =
    .ok (u.port, u.path ++ queryText query) := by
  obtain ⟨port, hport⟩ := h.port
  obtain ⟨segment, hpath, -⟩ := h.path
  have hdigits : ∀ c ∈ Nat.toDigits 10 port.toNat, (!endsPort c) = true := by
    intro c hc
    exact of_isPlain (P := fun c => (!endsPort c) = true) (by decide +kernel)
      (isPlain_of_isDigit (isDigit_of_mem_portText hc))
  rw [hport, hpath]
  unfold portText portAndRest
  simp only [List.cons_append, h.isEmpty_host]
  rw [Text.takeWhile_append_cons hdigits (by decide), Text.dropWhile_append_cons hdigits (by decide),
    parsePort_toDigits]
  rfl

/-- Path and query are divided where they have been put together, and the query ends at the first
hash. -/
theorem path_and_query :
    (u.path ++ queryText query).takeWhile (fun c => c != '?' && c != '#') = u.path ∧
      parseQuery ((u.path ++ queryText query).dropWhile fun c => c != '?' && c != '#') =
        query.map (List.takeWhile (· != '#')) := by
  obtain ⟨segment, hpath, hsegment⟩ := h.path
  have hall : ∀ c ∈ u.path, (c != '?' && c != '#') = true := by
    intro c hc
    rw [hpath] at hc
    rcases List.mem_cons.mp hc with rfl | hc
    · decide
    · rw [Bool.and_eq_true, bne_iff_ne, bne_iff_ne]
      exact ⟨ne_of_true_of_false (hsegment c hc) (by decide),
        ne_of_true_of_false (hsegment c hc) (by decide)⟩
  cases query with
  | none =>
    unfold queryText
    rw [List.append_nil, List.takeWhile_eq_self_iff.mpr hall, List.dropWhile_eq_nil_iff.mpr hall]
    exact ⟨rfl, rfl⟩
  | some query =>
    unfold queryText
    rw [Text.takeWhile_append_cons hall (by decide), Text.dropWhile_append_cons hall (by decide)]
    exact ⟨rfl, rfl⟩

/-- **A written URL** is taken apart into its parts, with the dots of its path resolved and with its
query cut at the first hash. -/
theorem parse_write : parse u.write = .ok { u with
    path := resolvePath u.path
    query := (u.query.map clean).map (List.takeWhile (· != '#')) } := by
  obtain ⟨segment, hpath, -⟩ := h.path
  obtain ⟨port, hport⟩ := h.port
  have hall : ∀ c ∈ u.authority, (!endsAuthority c) = true := by
    intro c hc
    rw [h.endsAuthority_of_mem_authority hc]
    rfl
  generalize hquery : u.query.map clean = query
  have hclean := h.clean_write
  rw [hquery] at hclean
  have hslash : u.path ++ queryText query = '/' :: (segment ++ queryText query) := by
    rw [hpath, List.cons_append]
  have hauthority : (u.authority ++ (u.path ++ queryText query)).takeWhile
      (fun c => !endsAuthority c) = u.authority := by
    rw [hslash, Text.takeWhile_append_cons hall (by decide)]
  have hrest : (u.authority ++ (u.path ++ queryText query)).dropWhile (fun c => !endsAuthority c) =
      u.path ++ queryText query := by
    rw [hslash, Text.dropWhile_append_cons hall (by decide)]
  have hsplit : splitLast '@' u.authority = some (u.information, u.host ++ portText u.port) :=
    splitLast_append_cons fun hat => ne_at_of_isClear (h.clear_of_mem_port hat) rfl
  have hhost : splitHost false (u.host ++ portText u.port ++ (u.path ++ queryText query)) =
      (u.host, portText u.port ++ (u.path ++ queryText query)) := by
    rw [hport, List.append_assoc]
    exact h.host.split _
  obtain ⟨htake, hcut⟩ := h.path_and_query query
  have hcredentials := h.credentials_information
  unfold parse
  simp only [hclean, hauthority, hrest, hsplit]
  cases hinformation : u.information with
  | nil => exact absurd hinformation h.information_ne_nil
  | cons c cs =>
    rw [hinformation] at hcredentials
    simp only [hcredentials, hhost, h.host.parse, h.portAndRest_write, h.isEmpty_host,
      bind, Except.bind, pure, Except.pure, Bool.false_and, Bool.false_eq_true, if_false, htake,
      hcut]

end IsWritable

end Url

end SchemaKit.Connection
