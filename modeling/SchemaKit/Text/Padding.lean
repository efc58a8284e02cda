/-!
# Padded numbers

`zeroPad w n` is `n` in decimal digits with zeros in front up to `w` characters.  A longer number is
never cut, and the padding does not change what the digits say.
-/

namespace SchemaKit.Text

/-- The decimal digits of a number, with zeros in front up to a width. -/
def zeroPad (width n : Nat) : List Char :=
  List.replicate (width - (Nat.toDigits 10 n).length) '0' ++ Nat.toDigits 10 n

theorem ofDigitChars_zeroPad (width n : Nat) : Nat.ofDigitChars 10 (zeroPad width n) 0 = n := by
  rw [zeroPad, Nat.ofDigitChars_append, Nat.ofDigitChars_replicate_zero]
  simp [Nat.ofDigitChars_ten_toDigits]

theorem isDigit_of_mem_zeroPad {width n : Nat} {c : Char} (h : c ∈ zeroPad width n) :
    c.isDigit = true := by
  rcases List.mem_append.1 h with h | h
  · rw [(List.mem_replicate.1 h).2]
    decide
  · exact Nat.isDigit_of_mem_toDigits (b := 10) (n := n) (by decide) (by decide) h

theorem zeroPad_ne_nil (width n : Nat) : zeroPad width n ≠ [] := by
  simp [zeroPad, Nat.toDigits_ne_nil]

end SchemaKit.Text
