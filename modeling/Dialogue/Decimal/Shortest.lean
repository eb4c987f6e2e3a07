import Dialogue.Decimal.Binary64
import Dialogue.Decimal.Digits

/-!
# The shortest decimal text of a floating point number

The text of a number has the fewest digits that still read back as the number, and among those the
nearest ones. For growing counts of digits, the two neighbours of the number on the decimal grid are
tried against the interval of the reals that round to the number.

* `Binary64.shortest?` chooses the digits.
* `FloatLayout` says how digits are laid out.
-/

namespace Dialogue.Decimal

/-! ## Choosing the digits -/

/-- The interval of the reals that round to a number, over a common denominator. -/
structure RoundingInterval where
  /-- The numerator of the lower end. -/
  low : Nat
  /-- The numerator of the number. -/
  value : Nat
  /-- The numerator of the upper end. -/
  high : Nat
  /-- The common denominator. -/
  den : Nat
  /-- The ends belong to the interval. -/
  closed : Bool

/-- The reals that round to `x`: up to half a unit in the last place to either side, and half of
that below a power of two. -/
def Binary64.interval (x : Binary64) : RoundingInterval :=
  let shift := x.exponent.toNat
  let below := if x.mantissa = mantissaLimit / 2 ∧ -1074 < x.exponent then 1 else 2
  { low := (4 * x.mantissa - below) <<< shift
    value := (4 * x.mantissa) <<< shift
    high := (4 * x.mantissa + 2) <<< shift
    den := 4 <<< (-x.exponent).toNat
    closed := x.mantissa % 2 == 0 }

/-- The point `digits * 10 ^ exponent` as a numerator over the interval's denominator times the
second component. -/
def RoundingInterval.point (i : RoundingInterval) (digits : Nat) (exponent : Int) : Nat × Nat :=
  (digits * tenPower exponent.toNat * i.den, tenPower (-exponent).toNat)

/-- The point `digits * 10 ^ exponent` lies in the interval. -/
def RoundingInterval.holds (i : RoundingInterval) (digits : Nat) (exponent : Int) : Bool :=
  let (p, scale) := i.point digits exponent
  if i.closed then i.low * scale ≤ p && p ≤ i.high * scale
  else i.low * scale < p && p < i.high * scale

/-- The number of steps by which a decimal exponent can be found. -/
def exponentBound : Nat := 400

/-- The exponent of the leading decimal digit of `num / den`, looked for upwards from `exponent`. -/
def leadingExponent (num den : Nat) : (fuel : Nat) → (exponent : Int) → Int
  | 0, exponent => exponent
  | fuel + 1, exponent =>
    let next := exponent + 1
    if den * tenPower next.toNat ≤ num * tenPower (-next).toNat then
      leadingExponent num den fuel next
    else exponent

/-- The best of the two neighbours of the number on the grid of step `10 ^ exponent`, if one of them
is in the interval; an even one in the middle. -/
def RoundingInterval.onGrid (i : RoundingInterval) (exponent : Int) : Option Nat :=
  let num := i.value * tenPower (-exponent).toNat
  let den := i.den * tenPower exponent.toNat
  let below := num / den
  let nearest := roundHalfEven num den
  if i.holds nearest exponent then some nearest
  else if i.holds below exponent then some below
  else if i.holds (below + 1) exponent then some (below + 1)
  else none

/-- The first grid with a point in the interval, refined from step `10 ^ exponent` on. -/
def RoundingInterval.refine (i : RoundingInterval) : (fuel : Nat) → (exponent : Int) → Nat × Int
  | 0, exponent =>
    (roundHalfEven (i.value * tenPower (-exponent).toNat) (i.den * tenPower exponent.toNat),
      exponent)
  | fuel + 1, exponent =>
    match i.onGrid exponent with
    | some digits => (digits, exponent)
    | none => i.refine fuel (exponent - 1)

/-- The digits and the decimal exponent of the shortest text of a number that is not zero. -/
def Binary64.shortest (x : Binary64) : Nat × Int :=
  let i := x.interval
  i.refine 17 (leadingExponent i.value i.den (2 * exponentBound) (-exponentBound))

/-! ## Laying out the digits -/

/-- How the digits of a number become a text. -/
structure FloatLayout where
  /-- The least exponent of a leading digit that is written positionally. -/
  least : Int
  /-- The greatest exponent of a leading digit that is written positionally. -/
  greatest : Int

/-- Removes the zeros at the end of a list of digits, counting them. -/
def dropTrailingZeros (ds : List Char) : List Char × Nat :=
  let kept := (ds.reverse.dropWhile (· == '0')).reverse
  (kept, ds.length - kept.length)

/-- The text of a number. Positional numbers have at least one place after the point; the others
have a signed exponent. -/
def FloatLayout.text (layout : FloatLayout) (x : Binary64) : List Char :=
  if x.isZero then ['0', '.', '0']
  else
    let (number, exponent) := x.shortest
    let (ds, zeros) := dropTrailingZeros (digits number)
    let exponent := exponent + zeros
    let leading := exponent + ds.length - 1
    if layout.least ≤ leading ∧ leading ≤ layout.greatest then
      if 0 ≤ exponent then ds ++ List.replicate exponent.toNat '0' ++ ['.', '0']
      else if 0 ≤ leading then
        ds.take (leading.toNat + 1) ++ '.' :: ds.drop (leading.toNat + 1)
      else '0' :: '.' :: List.replicate ((-leading).toNat - 1) '0' ++ ds
    else
      ds.take 1 ++ (if ds.length = 1 then [] else '.' :: ds.drop 1) ++
        'e' :: (if 0 ≤ leading then '+' else '-') :: digits leading.natAbs

end Dialogue.Decimal
