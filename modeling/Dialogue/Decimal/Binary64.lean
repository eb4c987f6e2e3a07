/-!
# Binary floating point by exact arithmetic

The numbers of the 64-bit binary format without a sign, as a mantissa and an exponent, and the
rounding of exact quotients to them: to the nearest one, and to the even mantissa in the middle.

Results:
* `two_mul_roundHalfEven_le`, `le_two_mul_roundHalfEven`: rounding moves a quotient by at most a
  half.
-/

namespace Dialogue.Decimal

/-- The natural number nearest to `num / den`, the even one in the middle. -/
def roundHalfEven (num den : Nat) : Nat :=
  let quotient := num / den
  let twice := 2 * (num % den)
  if twice < den then quotient
  else if den < twice then quotient + 1
  else quotient + quotient % 2

theorem two_mul_roundHalfEven_le (num den : Nat) :
    2 * (den * roundHalfEven num den) ≤ 2 * num + den := by
  have h := Nat.div_add_mod num den
  simp only [roundHalfEven]
  split
  · omega
  · have hq : num / den % 2 ≤ 1 := by omega
    split
    · rw [Nat.mul_add]
      omega
    · have : den * (num / den + num / den % 2) ≤ den * (num / den) + den := by
        rw [Nat.mul_add]
        have := Nat.mul_le_mul_left den hq
        omega
      omega

theorem le_two_mul_roundHalfEven {den : Nat} (hd : 0 < den) (num : Nat) :
    2 * num ≤ 2 * (den * roundHalfEven num den) + den := by
  have h := Nat.div_add_mod num den
  have hr := Nat.mod_lt num hd
  simp only [roundHalfEven]
  split
  · omega
  · split
    · rw [Nat.mul_add]
      omega
    · have : den * (num / den) ≤ den * (num / den + num / den % 2) :=
        Nat.mul_le_mul_left den (by omega)
      omega

/-- The number `mantissa * 2 ^ exponent`. -/
structure Binary64 where
  /-- At most 53 bits, and exactly 53 unless the exponent is the least one. -/
  mantissa : Nat
  /-- The power of two, from -1074 to 971. -/
  exponent : Int
  deriving DecidableEq, Repr

namespace Binary64

/-- Mantissas lie below this number. -/
def mantissaLimit : Nat := 1 <<< 53

/-- Zero. -/
def zero : Binary64 := ⟨0, -1074⟩

/-- The number is zero. -/
def isZero (x : Binary64) : Bool := x.mantissa == 0

/-- The quotient `num * 2 ^ shift / den` as a numerator and a denominator. -/
def scaled (num den : Nat) (shift : Int) : Nat × Nat :=
  (num <<< shift.toNat, den <<< (-shift).toNat)

/-- The number nearest to `num * 2 ^ shift / den`, none if the format has none so large. -/
def ofScaled (num den : Nat) (shift : Int) : Option Binary64 :=
  if num = 0 then some zero
  else
    let estimate := max (shift + num.log2 - den.log2 - 53) (-1074)
    let (n, d) := scaled num den (shift - estimate)
    let exponent := if mantissaLimit ≤ n / d then estimate + 1 else estimate
    let (n, d) := scaled num den (shift - exponent)
    let mantissa := roundHalfEven n d
    let (mantissa, exponent) :=
      if mantissa = mantissaLimit then (mantissaLimit / 2, exponent + 1) else (mantissa, exponent)
    if 971 < exponent then none else some ⟨mantissa, exponent⟩

/-- The number nearest to a natural number. -/
def ofNat? (n : Nat) : Option Binary64 := ofScaled n 1 0

/-- The product, none on overflow. -/
def mul? (x y : Binary64) : Option Binary64 :=
  ofScaled (x.mantissa * y.mantissa) 1 (x.exponent + y.exponent)

/-- The quotient by a number that is not zero, none on overflow. -/
def div? (x y : Binary64) : Option Binary64 :=
  ofScaled x.mantissa y.mantissa (x.exponent - y.exponent)

end Binary64

end Dialogue.Decimal
