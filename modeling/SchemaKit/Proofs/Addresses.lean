import Mathlib.Data.List.TakeWhile
import Mathlib.Data.Nat.Digits.Defs
import SchemaKit.Connection.Ipv6

/-!
# Addresses read back

What `Ipv6.parse?` accepts is eight pieces of sixteen bits (`Ipv6.isAddress_of_parse?`), and the
canonical spelling of such pieces is read as these pieces again (`Ipv6.parse?_text`): the double
colon stands for as many zeros as the other pieces leave.
-/

namespace SchemaKit.Connection.Ipv6

/-- Eight pieces of sixteen bits. -/
structure IsAddress (pieces : List Nat) : Prop where
  length : pieces.length = 8
  lt : ∀ p ∈ pieces, p < 65536

/-! ## What is accepted -/

theorem hexValue?_lt {c : Char} {d : Nat} (h : hexValue? c = some d) : d < 16 := by
  have hle : ∀ {a b : Char}, a ≤ b → a.toNat ≤ b.toNat := fun hab => hab
  have h9 : '9'.toNat = 57 := rfl
  have hf : 'f'.toNat = 102 := rfl
  have hF : 'F'.toNat = 70 := rfl
  unfold hexValue? at h
  by_cases hdigit : c.isDigit = true
  · rw [if_pos hdigit] at h
    obtain rfl := Option.some.inj h
    have hc9 := (Char.isDigit_iff_toNat.mp hdigit).2
    omega
  rw [if_neg hdigit] at h
  by_cases hlower : (decide ('a' ≤ c) && decide (c ≤ 'f')) = true
  · rw [if_pos hlower] at h
    obtain rfl := Option.some.inj h
    rw [Bool.and_eq_true, decide_eq_true_eq, decide_eq_true_eq] at hlower
    have hcf := hle hlower.2
    omega
  rw [if_neg hlower] at h
  by_cases hupper : (decide ('A' ≤ c) && decide (c ≤ 'F')) = true
  · rw [if_pos hupper] at h
    obtain rfl := Option.some.inj h
    rw [Bool.and_eq_true, decide_eq_true_eq, decide_eq_true_eq] at hupper
    have hcF := hle hupper.2
    omega
  · rw [if_neg hupper] at h
    cases h

theorem hexPrefix_lt (n value : Nat) (cs : List Char) :
    (hexPrefix n value cs).1 < (value + 1) * 16 ^ n := by
  induction n generalizing value cs with
  | zero =>
    unfold hexPrefix
    omega
  | succ n ih =>
    have hpos : 0 < 16 ^ (n + 1) := Nat.pow_pos (by decide)
    have hstay : value < (value + 1) * 16 ^ (n + 1) :=
      Nat.lt_of_lt_of_le (Nat.lt_succ_self value) (Nat.le_mul_of_pos_right _ hpos)
    cases cs with
    | nil => exact hstay
    | cons c cs =>
      unfold hexPrefix
      cases hc : hexValue? c with
      | none => exact hstay
      | some d =>
        have hd := hexValue?_lt hc
        calc
          (hexPrefix n (value * 16 + d) cs).1 < (value * 16 + d + 1) * 16 ^ n := ih _ _
          _ ≤ ((value + 1) * 16) * 16 ^ n := Nat.mul_le_mul_right _ (by omega)
          _ = (value + 1) * 16 ^ (n + 1) := by rw [Nat.pow_succ, Nat.mul_assoc, Nat.mul_comm 16]

theorem octet?_le {cs : List Char} {n : Nat} (h : octet? cs = some n) : n ≤ 255 := by
  unfold octet? at h
  split at h
  · cases h
  · simp only at h
    split at h
    · rename_i hle
      obtain rfl := Option.some.inj h
      exact hle
    · cases h

theorem ipv4?_pieces {cs : List Char} {pieces : List Nat} (h : ipv4? cs = some pieces) :
    pieces.length = 2 ∧ ∀ p ∈ pieces, p < 65536 := by
  unfold ipv4? at h
  split at h
  · split at h
    · rename_i ha hb hc hd
      obtain rfl := Option.some.inj h
      have hale := octet?_le ha
      have hble := octet?_le hb
      have hcle := octet?_le hc
      have hdle := octet?_le hd
      refine ⟨rfl, List.forall_mem_cons.mpr ⟨by omega, List.forall_mem_cons.mpr ⟨by omega, ?_⟩⟩⟩
      exact List.forall_mem_nil _
    · cases h
  · cases h

theorem fill_isAddress {pieces filled : List Nat} {position : Option Nat}
    (hlength : pieces.length ≤ 8) (hlt : ∀ p ∈ pieces, p < 65536)
    (h : fill pieces position = some filled) : IsAddress filled := by
  unfold fill at h
  cases position with
  | none =>
    simp only at h
    split at h
    · rename_i height
      obtain rfl := Option.some.inj h
      exact ⟨height, hlt⟩
    · cases h
  | some gap =>
    obtain rfl := Option.some.inj h
    constructor
    · simp only [List.length_append, List.length_take, List.length_replicate, List.length_drop]
      omega
    · intro p hp
      rw [List.mem_append, List.mem_append] at hp
      rcases hp with (hp | hp) | hp
      · exact hlt p (List.mem_of_mem_take hp)
      · rw [(List.mem_replicate.mp hp).2]
        decide
      · exact hlt p (List.mem_of_mem_drop hp)

theorem forall_mem_concat {pieces : List Nat} {p : Nat} (hlt : ∀ p ∈ pieces, p < 65536)
    (hp : p < 65536) : ∀ q ∈ pieces ++ [p], q < 65536 := by
  intro q hq
  rcases List.mem_append.mp hq with hq | hq
  · exact hlt q hq
  · rw [List.mem_singleton.mp hq]
    exact hp

/-- From pieces of an address on, only an address is read. -/
theorem readPieces_isAddress {fuel : Nat} {pieces result : List Nat} {position : Option Nat}
    {cs : List Char} (hlength : pieces.length ≤ 8) (hlt : ∀ p ∈ pieces, p < 65536)
    (h : readPieces fuel pieces position cs = some result) : IsAddress result := by
  induction fuel generalizing pieces position cs with
  | zero => cases h
  | succ fuel ih =>
    cases cs with
    | nil => exact fill_isAddress hlength hlt h
    | cons c rest =>
      unfold readPieces at h
      by_cases hfull : pieces.length = 8
      · rw [if_pos hfull] at h
        cases h
      rw [if_neg hfull] at h
      by_cases hcolon : c = ':'
      · rw [if_pos hcolon] at h
        split at h
        · cases h
        -- a second colon stands for a zero, and there is room for it
        · refine ih ?_ (forall_mem_concat hlt (by decide)) h
          rw [List.length_append, List.length_singleton]
          omega
      rw [if_neg hcolon] at h
      have hvalue : (hexPrefix 4 0 (c :: rest)).1 < 65536 := hexPrefix_lt 4 0 (c :: rest)
      have hpieces := forall_mem_concat hlt hvalue
      have hcount : (pieces ++ [(hexPrefix 4 0 (c :: rest)).1]).length ≤ 8 := by
        rw [List.length_append, List.length_singleton]
        omega
      simp only at h
      split at h
      · exact fill_isAddress hcount hpieces h
      · split at h
        · cases h
        · rename_i hsix
          rw [Bool.or_eq_true, decide_eq_true_eq] at hsix
          obtain ⟨last, hlast, h⟩ := Option.bind_eq_some_iff.mp h
          -- dots in place of the last two pieces, of which there are six at most
          obtain ⟨htwo, hlastlt⟩ := ipv4?_pieces hlast
          refine fill_isAddress ?_ ?_ h
          · rw [List.length_append]
            omega
          · intro p hp
            rcases List.mem_append.mp hp with hp | hp
            · exact hlt p hp
            · exact hlastlt p hp
      · cases h
      · exact ih hcount hpieces h
      · cases h

/-- **What is accepted** is eight pieces of sixteen bits. -/
theorem isAddress_of_parse? {cs : List Char} {pieces : List Nat} (h : parse? cs = some pieces) :
    IsAddress pieces := by
  unfold parse? at h
  split at h
  · exact readPieces_isAddress (by decide) (by decide) h
  · cases h
  · cases h
  · cases h
  · exact readPieces_isAddress (by decide) (by decide) h

/-! ## Digits -/

theorem hexValue?_digitChar {d : Nat} (h : d < 16) : hexValue? d.digitChar = some d :=
  (by decide : ∀ d < 16, hexValue? d.digitChar = some d) d h

/-- What holds of the sixteen digits holds of the digits of any number. -/
theorem of_mem_toDigits {P : Char → Prop} (h : ∀ d < 16, P d.digitChar) {n : Nat} {c : Char}
    (hc : c ∈ Nat.toDigits 16 n) : P c := by
  induction n using Nat.strong_induction_on with
  | _ n ih =>
    rw [Nat.toDigits_eq_if (by decide)] at hc
    split at hc
    · rename_i hlt
      rw [List.mem_singleton.mp hc]
      exact h n hlt
    · rcases List.mem_append.mp hc with hc | hc
      · exact ih _ (by omega) hc
      · rw [List.mem_singleton.mp hc]
        exact h _ (Nat.mod_lt n (by decide))

theorem hexValue?_isSome_of_mem {n : Nat} {c : Char} (h : c ∈ Nat.toDigits 16 n) :
    (hexValue? c).isSome = true :=
  of_mem_toDigits (P := fun c => (hexValue? c).isSome = true) (by decide) h

/-- The digits of a number make this number. -/
theorem foldl_toDigits (n : Nat) :
    (Nat.toDigits 16 n).foldl (fun value c => value * 16 + (hexValue? c).getD 0) 0 = n := by
  induction n using Nat.strong_induction_on with
  | _ n ih =>
    rw [Nat.toDigits_eq_if (by decide)]
    split
    · rename_i hlt
      simp [hexValue?_digitChar hlt]
    · rw [List.foldl_append, ih _ (by omega), List.foldl_cons, List.foldl_nil,
        hexValue?_digitChar (Nat.mod_lt n (by decide)), Option.getD_some]
      omega

theorem hexPrefix_append {digits rest : List Char} {n : Nat} (value : Nat)
    (hdigits : ∀ c ∈ digits, (hexValue? c).isSome = true) (hlength : digits.length ≤ n)
    (hrest : ∀ c ∈ rest.head?, hexValue? c = none) :
    hexPrefix n value (digits ++ rest) =
      (digits.foldl (fun value c => value * 16 + (hexValue? c).getD 0) value, rest) := by
  induction digits generalizing n value with
  | nil =>
    cases n with
    | zero => rfl
    | succ n =>
      cases rest with
      | nil => rfl
      | cons c rest => simp [hexPrefix, hrest c rfl]
  | cons c digits ih =>
    obtain ⟨hc, hdigits⟩ := List.forall_mem_cons.mp hdigits
    obtain ⟨d, hd⟩ := Option.isSome_iff_exists.mp hc
    cases n with
    | zero => cases hlength
    | succ n =>
      simp only [List.cons_append, hexPrefix, hd, List.foldl_cons, Option.getD_some]
      exact ih _ hdigits (Nat.le_of_succ_le_succ hlength)

/-- **A piece** is read from its digits. -/
theorem hexPrefix_toDigits {p : Nat} (hp : p < 65536) (rest : List Char)
    (hrest : ∀ c ∈ rest.head?, hexValue? c = none) :
    hexPrefix 4 0 (Nat.toDigits 16 p ++ rest) = (p, rest) := by
  rw [hexPrefix_append 0 (fun c hc => hexValue?_isSome_of_mem hc)
    (Nat.toDigits_length 16 p 4 (by decide) hp) hrest, foldl_toDigits]

theorem exists_toDigits_cons (p : Nat) :
    ∃ c digits, Nat.toDigits 16 p = c :: digits ∧ c ≠ ':' := by
  cases hdigits : Nat.toDigits 16 p with
  | nil => exact absurd hdigits Nat.toDigits_ne_nil
  | cons c digits =>
    refine ⟨c, digits, rfl, ?_⟩
    rintro rfl
    have hsome := hexValue?_isSome_of_mem (n := p) (hdigits ▸ List.mem_cons_self ..)
    exact absurd hsome (by decide)

/-! ## Pieces -/

section Pieces

variable {pieces : List Nat} {position : Option Nat} {p : Nat}

theorem readPieces_last (fuel : Nat) (hpieces : pieces.length < 8) (hp : p < 65536) :
    readPieces (fuel + 1) pieces position (Nat.toDigits 16 p) = fill (pieces ++ [p]) position := by
  obtain ⟨c, digits, hdigits, hc⟩ := exists_toDigits_cons p
  have hread := hexPrefix_toDigits hp [] (by simp)
  rw [List.append_nil, hdigits] at hread
  rw [hdigits, readPieces, if_neg (Nat.ne_of_lt hpieces), if_neg hc, hread]

theorem readPieces_colon (fuel : Nat) (hpieces : pieces.length < 8) (hp : p < 65536) (d : Char)
    (rest : List Char) :
    readPieces (fuel + 1) pieces position (Nat.toDigits 16 p ++ ':' :: d :: rest) =
      readPieces fuel (pieces ++ [p]) position (d :: rest) := by
  obtain ⟨c, digits, hdigits, hc⟩ := exists_toDigits_cons p
  have hread := hexPrefix_toDigits hp (':' :: d :: rest) (by
    rintro c hc
    obtain rfl := Option.some.inj hc
    decide)
  rw [hdigits, List.cons_append] at hread
  rw [hdigits, List.cons_append, readPieces, if_neg (Nat.ne_of_lt hpieces), if_neg hc, hread]
  rfl

end Pieces

theorem join_nil : join [] = [] := rfl

theorem join_singleton (p : Nat) : join [p] = Nat.toDigits 16 p := by
  simp [join]

theorem join_cons_cons (p q : Nat) (ps : List Nat) :
    join (p :: q :: ps) = Nat.toDigits 16 p ++ ':' :: join (q :: ps) := by
  simp [join, List.intercalate_cons_cons]

theorem exists_join_cons (p : Nat) (ps : List Nat) :
    ∃ c rest, join (p :: ps) = c :: rest ∧ c ≠ ':' := by
  obtain ⟨c, digits, hdigits, hc⟩ := exists_toDigits_cons p
  cases ps with
  | nil => exact ⟨c, digits, by rw [join_singleton, hdigits], hc⟩
  | cons q ps => exact ⟨c, _, by rw [join_cons_cons, hdigits, List.cons_append], hc⟩

theorem length_le_length_join (ps : List Nat) : ps.length ≤ (join ps).length := by
  induction ps with
  | nil => exact Nat.zero_le _
  | cons p ps ih =>
    obtain ⟨c, digits, hdigits, -⟩ := exists_toDigits_cons p
    cases ps with
    | nil =>
      rw [join_singleton, hdigits]
      simp
    | cons q ps =>
      rw [join_cons_cons, hdigits]
      simp only [List.length_cons, List.length_append] at ih ⊢
      omega

/-- Joined pieces are read one by one up to the end. -/
theorem readPieces_join {fuel : Nat} {pieces ps : List Nat} {position : Option Nat}
    (hfuel : ps.length < fuel) (hlength : pieces.length + ps.length ≤ 8)
    (hlt : ∀ p ∈ ps, p < 65536) :
    readPieces fuel pieces position (join ps) = fill (pieces ++ ps) position := by
  induction ps generalizing fuel pieces with
  | nil =>
    cases fuel with
    | zero => cases hfuel
    | succ fuel => simp [join_nil, readPieces]
  | cons p ps ih =>
    obtain ⟨hp, hps⟩ := List.forall_mem_cons.mp hlt
    rw [List.length_cons] at hfuel hlength
    obtain ⟨fuel, rfl⟩ : ∃ n, fuel = n + 1 := ⟨fuel - 1, by omega⟩
    cases ps with
    | nil => rw [join_singleton, readPieces_last fuel (by omega) hp]
    | cons q ps =>
      obtain ⟨d, rest, hjoin, -⟩ := exists_join_cons q ps
      have hcount : (pieces ++ [p]).length + (q :: ps).length ≤ 8 := by
        rw [List.length_append, List.length_singleton]
        omega
      rw [join_cons_cons, hjoin, readPieces_colon fuel (by omega) hp, ← hjoin,
        ih (by omega) hcount hps, List.append_assoc, List.singleton_append]

/-- Joined pieces are read one by one up to a double colon, which stands for a zero and may stand
for more. -/
theorem readPieces_join_gap {fuel : Nat} {pieces ps : List Nat} (hne : ps ≠ [])
    (hlength : pieces.length + ps.length < 8) (hlt : ∀ p ∈ ps, p < 65536) (rest : List Char) :
    readPieces (fuel + ps.length + 1) pieces none (join ps ++ ':' :: ':' :: rest) =
      readPieces fuel (pieces ++ ps ++ [0]) (some (pieces.length + ps.length + 1)) rest := by
  induction ps generalizing pieces with
  | nil => exact absurd rfl hne
  | cons p ps ih =>
    obtain ⟨hp, hps⟩ := List.forall_mem_cons.mp hlt
    rw [List.length_cons] at hlength ⊢
    cases ps with
    | nil =>
      have hgap : (pieces ++ [p]).length ≠ 8 := by
        rw [List.length_append, List.length_singleton]
        simp only [List.length_nil] at hlength
        omega
      rw [join_singleton, List.length_nil, readPieces_colon (fuel + 1) (by omega) hp, readPieces,
        if_neg hgap, if_pos rfl, if_neg (by simp), List.length_append, List.length_singleton]
    | cons q ps =>
      obtain ⟨d, tail, hjoin, -⟩ := exists_join_cons q ps
      have hcount : (pieces ++ [p]).length + (q :: ps).length < 8 := by
        rw [List.length_append, List.length_singleton]
        omega
      have hstep := ih (List.cons_ne_nil q ps) hcount hps
      rw [hjoin, List.cons_append] at hstep
      rw [join_cons_cons, hjoin, List.append_assoc, List.cons_append, List.cons_append,
        readPieces_colon _ (by omega) hp]
      have hfuel : fuel + ((q :: ps).length + 1) = fuel + (q :: ps).length + 1 := by omega
      have hposition : (pieces ++ [p]).length + (q :: ps).length + 1 =
          pieces.length + ((q :: ps).length + 1) + 1 := by
        rw [List.length_append, List.length_singleton]
        omega
      rw [hfuel, hstep, hposition, List.append_assoc pieces, List.singleton_append]

/-! ## The canonical spelling -/

theorem isAlphanum_of_mem_text (pieces : List Nat) :
    ∀ c ∈ text pieces, c.isAlphanum = true ∨ c = ':' := by
  have hdigits : ∀ p, ∀ c ∈ Nat.toDigits 16 p, c.isAlphanum = true ∨ c = ':' := fun p c hc =>
    .inl (of_mem_toDigits (P := fun c => c.isAlphanum = true) (by decide) hc)
  have hjoin : ∀ ps, ∀ c ∈ join ps, c.isAlphanum = true ∨ c = ':' := by
    intro ps
    induction ps with
    | nil => exact List.forall_mem_nil _
    | cons p ps ih =>
      cases ps with
      | nil =>
        rw [join_singleton]
        exact hdigits p
      | cons q ps =>
        rw [join_cons_cons]
        exact List.forall_mem_append.mpr
          ⟨hdigits p, List.forall_mem_cons.mpr ⟨.inr rfl, ih⟩⟩
  intro c hc
  unfold text at hc
  simp only at hc
  split at hc
  · exact hjoin _ c hc
  · rcases List.mem_append.mp hc with hc | hc
    · rcases List.mem_append.mp hc with hc | hc
      · exact hjoin _ c hc
      · simp only [List.mem_cons, List.not_mem_nil, or_false, or_self] at hc
        exact .inr hc
    · exact hjoin _ c hc

theorem takeWhile_eq_replicate (pieces : List Nat) :
    pieces.takeWhile (· = 0) = List.replicate (zeros pieces) 0 := by
  rw [List.eq_replicate_iff]
  refine ⟨rfl, fun p hp => ?_⟩
  have hzero := List.mem_takeWhile_imp (p := (· = 0)) hp
  exact of_decide_eq_true hzero

/-- The longest stretch of zeros is one. -/
theorem eq_take_replicate_drop (pieces : List Nat) :
    pieces = pieces.take (longestZeros pieces).1 ++
      List.replicate (longestZeros pieces).2 0 ++
        pieces.drop ((longestZeros pieces).1 + (longestZeros pieces).2) := by
  induction pieces with
  | nil => rfl
  | cons p rest ih =>
    unfold longestZeros
    simp only
    split
    · have hcut := List.takeWhile_append_dropWhile (p := (· = 0)) (l := p :: rest)
      have hdrop : ((p :: rest).takeWhile (· = 0) ++ (p :: rest).dropWhile (· = 0)).drop
          ((p :: rest).takeWhile (· = 0)).length = (p :: rest).dropWhile (· = 0) := List.drop_left
      rw [hcut] at hdrop
      rw [List.take_zero, List.nil_append, Nat.zero_add, ← takeWhile_eq_replicate]
      unfold zeros
      rw [hdrop, hcut]
    · rw [List.take_succ_cons, Nat.add_right_comm, List.drop_succ_cons, List.cons_append,
        List.cons_append, ← ih]

theorem fill_gap {a b : List Nat} :
    fill (a ++ [0] ++ b) (some (a.length + 1)) =
      some (a ++ List.replicate (8 - (a.length + b.length + 1) + 1) 0 ++ b) := by
  have hlength : a.length + 1 = (a ++ [0]).length := by simp
  have hcount : (a ++ [0] ++ b).length = a.length + b.length + 1 := by
    simp only [List.length_append, List.length_singleton]
    omega
  unfold fill
  simp only [hcount, hlength, List.take_left, List.drop_left]
  rw [List.replicate_succ, List.append_assoc a [0], List.singleton_append]

theorem parse?_of_colon {p : Nat} (rest : List Char) :
    parse? (Nat.toDigits 16 p ++ ':' :: rest) =
      readPieces ((Nat.toDigits 16 p ++ ':' :: rest).length + 1) [] none
        (Nat.toDigits 16 p ++ ':' :: rest) := by
  obtain ⟨c, digits, hdigits, hc⟩ := exists_toDigits_cons p
  rw [hdigits, List.cons_append]
  unfold parse?
  split
  · rename_i heq
    exact absurd (List.cons.inj heq).1 hc
  · rename_i heq
    exact absurd (List.cons.inj heq).1 hc
  · rename_i heq
    cases heq
  · rename_i heq
    have hnil := (List.cons.inj heq).2
    simp at hnil
  · rfl

/-- A stretch of two or more zeros comes back from the double colon that it is left to. -/
theorem parse?_gap {a b : List Nat} {n : Nat} (hn : 2 ≤ n) (hlength : a.length + n + b.length = 8)
    (ha : ∀ p ∈ a, p < 65536) (hb : ∀ p ∈ b, p < 65536) :
    parse? (join a ++ ':' :: ':' :: join b) = some (a ++ List.replicate n 0 ++ b) := by
  have hfill : fill (a ++ [0] ++ b) (some (a.length + 1)) = some (a ++ List.replicate n 0 ++ b) := by
    rw [fill_gap]
    have hcount : 8 - (a.length + b.length + 1) + 1 = n := by omega
    rw [hcount]
  have hb' := length_le_length_join b
  cases a with
  | nil =>
    have hread : parse? (join [] ++ ':' :: ':' :: join b) =
        readPieces ((join b).length + 1) [0] (some 1) (join b) := rfl
    rw [hread, readPieces_join (by omega) _ hb]
    · exact hfill
    · simp only [List.length_nil, List.length_singleton] at hlength ⊢
      omega
  | cons p ps =>
    have hcolon : ∃ rest, join (p :: ps) ++ ':' :: ':' :: join b =
        Nat.toDigits 16 p ++ ':' :: rest := by
      cases ps with
      | nil => exact ⟨_, by rw [join_singleton]⟩
      | cons q ps =>
        exact ⟨_, by rw [join_cons_cons, List.append_assoc, List.cons_append]⟩
    have ha' := length_le_length_join (p :: ps)
    obtain ⟨rest, hrest⟩ := hcolon
    rw [hrest, parse?_of_colon, ← hrest]
    obtain ⟨fuel, hfuel⟩ : ∃ fuel, (join (p :: ps) ++ ':' :: ':' :: join b).length + 1 =
        fuel + (p :: ps).length + 1 ∧ b.length < fuel := by
      refine ⟨(join (p :: ps) ++ ':' :: ':' :: join b).length - (p :: ps).length, ?_⟩
      simp only [List.length_append, List.length_cons] at ha' ⊢
      omega
    rw [hfuel.1, readPieces_join_gap (List.cons_ne_nil p ps) _ ha, List.nil_append,
      readPieces_join hfuel.2 _ hb]
    · simpa using hfill
    · simp only [List.length_append, List.length_singleton]
      omega
    · rw [List.length_nil]
      omega

/-- **The canonical spelling** of an address is read as this address. -/
theorem parse?_text {pieces : List Nat} (h : IsAddress pieces) :
    parse? (text pieces) = some pieces := by
  have hsplit := eq_take_replicate_drop pieces
  unfold text
  simp only
  split
  · -- all eight pieces are written
    match pieces, h.length with
    | p :: q :: ps, hlength =>
      have hps := length_le_length_join (p :: q :: ps)
      rw [join_cons_cons] at hps ⊢
      rw [parse?_of_colon, ← join_cons_cons]
      rw [readPieces_join (by rw [join_cons_cons]; omega) (by simp [h.length]) h.lt]
      simp [fill, h.length]
  · rename_i hn
    have hlength := congrArg List.length hsplit
    rw [h.length, List.length_append, List.length_append, List.length_replicate] at hlength
    rw [List.append_assoc, List.cons_append, List.cons_append, List.nil_append,
      parse?_gap (Nat.le_of_not_lt hn) hlength.symm
        (fun p hp => h.lt p (List.mem_of_mem_take hp))
        (fun p hp => h.lt p (List.mem_of_mem_drop hp)), ← hsplit]

end SchemaKit.Connection.Ipv6
