/-!
# Decimal numerals

How natural numbers are written: by their decimal digits, and where a fixed column width is wanted
with zeros in front. A number that is wider than its column is written in full.

Results:
* `digits_eq_cons`: the numeral of a positive number has no leading zero.
* `length_paddedDigits`: a padded numeral is as wide as its column or its digits ask.
* `isDigit_of_mem_paddedDigits`: it is made of digits.
* `utf8ByteSize_numeral`: a numeral takes a byte for each of its digits.
* `paddedNumeral_injective`: it tells numbers apart, also those wider than the column.
-/

namespace Dialogue.Decimal

/-- The decimal digits of a number, without leading zeros. -/
def digits (n : Nat) : List Char := Nat.toDigits 10 n

/-- The decimal digits of a number, filled with zeros in front up to `width`. -/
def paddedDigits (width n : Nat) : List Char :=
  List.replicate (width - (digits n).length) '0' ++ digits n

/-- A power of ten. -/
def tenPower (n : Nat) : Nat := Nat.pow 10 n

/-- The decimal numeral of a number. -/
def numeral (n : Nat) : String := String.ofList (digits n)

/-- The decimal numeral of a number, filled with zeros in front up to `width`. -/
def paddedNumeral (width n : Nat) : String := String.ofList (paddedDigits width n)

@[simp] theorem toList_numeral (n : Nat) : (numeral n).toList = digits n := by
  simp [numeral]

@[simp] theorem toList_paddedNumeral (width n : Nat) :
    (paddedNumeral width n).toList = paddedDigits width n := by
  simp [paddedNumeral]

theorem length_paddedDigits (width n : Nat) :
    (paddedDigits width n).length = max width (digits n).length := by
  simp only [paddedDigits, List.length_append, List.length_replicate]
  omega

theorem isDigit_of_mem_digits {n : Nat} {c : Char} (h : c ∈ digits n) : c.isDigit = true :=
  Nat.isDigit_of_mem_toDigits (by decide) (by decide) h

/-- The numeral of a positive number does not begin with a zero. -/
theorem digits_eq_cons {n : Nat} (h : 0 < n) : ∃ d ds, digits n = d :: ds ∧ d ≠ '0' := by
  induction n using Nat.strongRecOn with
  | ind n ih =>
    unfold digits at ih ⊢
    by_cases hn : n < 10
    · refine ⟨Nat.digitChar n, [], Nat.toDigits_of_lt_base hn, fun he => ?_⟩
      have := Nat.digitChar_eq_zero.mp he
      omega
    · obtain ⟨d, ds, hd, hne⟩ := ih (n / 10) (by omega) (by omega)
      refine ⟨d, ds ++ [Nat.digitChar (n % 10)], ?_, hne⟩
      rw [Nat.toDigits_of_base_le (by decide) (by omega), hd, List.cons_append]

theorem isDigit_of_mem_paddedDigits {width n : Nat} {c : Char} (h : c ∈ paddedDigits width n) :
    c.isDigit = true := by
  rcases List.mem_append.mp h with h | h
  · rw [(List.mem_replicate.mp h).2]
    rfl
  · exact isDigit_of_mem_digits h

/-- A digit takes one byte. -/
theorem utf8Size_of_isDigit {c : Char} (h : c.isDigit = true) : c.utf8Size = 1 := by
  simp only [Char.isDigit, Bool.and_eq_true, decide_eq_true_eq] at h
  have hc : c.val.toNat ≤ 57 := h.2
  refine Char.utf8Size_eq_one_iff.mpr ?_
  show c.val.toNat ≤ 127
  omega

theorem utf8ByteSize_of_isDigit {cs : List Char} (h : ∀ c ∈ cs, c.isDigit = true) :
    (String.ofList cs).utf8ByteSize = cs.length := by
  induction cs with
  | nil => rfl
  | cons c cs ih =>
    rw [String.ofList_cons, String.utf8ByteSize_append, String.utf8ByteSize_singleton,
      utf8Size_of_isDigit (h c List.mem_cons_self), ih fun d hd => h d (List.mem_cons_of_mem c hd),
      List.length_cons, Nat.add_comm]

/-- A numeral takes as many bytes as it has digits. -/
theorem utf8ByteSize_numeral (n : Nat) : (numeral n).utf8ByteSize = (digits n).length :=
  utf8ByteSize_of_isDigit fun _ hc => isDigit_of_mem_digits hc

/-- Zeros in front do not change the number. -/
theorem ofDigitChars_paddedDigits (width n : Nat) :
    Nat.ofDigitChars 10 (paddedDigits width n) 0 = n := by
  rw [paddedDigits, Nat.ofDigitChars_append, Nat.ofDigitChars_replicate_zero, Nat.mul_zero]
  exact Nat.ofDigitChars_ten_toDigits

theorem paddedNumeral_injective {width m n : Nat}
    (h : paddedNumeral width m = paddedNumeral width n) : m = n := by
  have digits : paddedDigits width m = paddedDigits width n := String.ofList_injective h
  rw [← ofDigitChars_paddedDigits width m, digits, ofDigitChars_paddedDigits]

theorem numeral_injective {m n : Nat} (h : numeral m = numeral n) : m = n := by
  have digits : digits m = digits n := String.ofList_injective h
  have padded : paddedNumeral 0 m = paddedNumeral 0 n := by
    simp [paddedNumeral, paddedDigits, digits]
  exact paddedNumeral_injective padded

end Dialogue.Decimal
