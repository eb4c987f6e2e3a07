import Dialogue.Json.Problem

/-!
# Numbers of JSON

A number that is kept is read into as many of its leading digits as 64 bits hold and a power of ten;
further digits only count towards the power. Natural numbers and small negative ones keep their
value, and any other number is the floating point number that results from multiplying or dividing
by the power of ten. A number that is skipped only has to be well formed.

* `Number.read` reads a number that is kept, and `skipNumber` one that is skipped.
-/

namespace Dialogue.Json

open Decimal

/-- The value of a decimal digit. -/
def digitValue (c : Char) : Nat := c.toNat - '0'.toNat

/-- A digit comes next. -/
def startsWithDigit : List Char → Bool
  | [] => false
  | c :: _ => c.isDigit

/-- Numbers from here on do not fit into 64 bits. -/
def wordLimit : Nat := 0x10000000000000000

/-- Appends digits to a number as long as it fits into 64 bits. -/
def significand (value : Nat) : List Char → Nat × List Char
  | [] => (value, [])
  | c :: cs =>
    if c.isDigit ∧ value * 10 + digitValue c < wordLimit then
      significand (value * 10 + digitValue c) cs
    else (value, c :: cs)

/-! ## Powers of ten -/

/-- The greatest power of ten with a floating point number of its own. -/
def greatestPower : Nat := 308

/-- The floating point number nearest to a power of ten. -/
def powerOfTen (n : Nat) : Binary64 := (Binary64.ofNat? (tenPower n)).getD .zero

/-- Multiplies a number by a power of ten, or divides it by one, in steps that have a floating point
number of their own; none on overflow. -/
def scale? (x : Binary64) (exponent : Int) : Option Binary64 :=
  if exponent.natAbs ≤ greatestPower then
    if 0 ≤ exponent then x.mul? (powerOfTen exponent.natAbs)
    else x.div? (powerOfTen exponent.natAbs)
  else if x.isZero then some x
  else if 0 ≤ exponent then none
  else (x.div? (powerOfTen greatestPower)).bind fun y => scale? y (exponent + greatestPower)
termination_by exponent.natAbs
decreasing_by
  simp only [greatestPower] at *
  omega

/-- The floating point number with the given digits and power of ten. -/
def Number.ofParts (isNegative : Bool) (digits : Nat) (exponent : Int) : Except Problem Number :=
  match (Binary64.ofNat? digits).bind (scale? · exponent) with
  | some x => .ok (.float isNegative x)
  | none => .error .malformed

/-- The number with the given digits, all of them before the point. -/
def Number.ofInteger (isNegative : Bool) (digits : Nat) : Except Problem Number :=
  if ! isNegative then .ok (.natural digits)
  else if 0 < digits ∧ digits ≤ wordLimit / 2 then .ok (.negative digits)
  else Number.ofParts true digits 0

/-! ## Numbers that are kept -/

/-- Reads the sign of an exponent. -/
def exponentSign : List Char → Bool × List Char
  | '+' :: cs => (false, cs)
  | '-' :: cs => (true, cs)
  | cs => (false, cs)

/-- Reads an exponent from behind its letter. -/
def exponentDigits (cs : List Char) : Except Problem (Int × List Char) :=
  let (isNegative, cs) := exponentSign cs
  match cs with
  | [] => .error .cut
  | c :: _ =>
    if c.isDigit then
      let value := (cs.takeWhile Char.isDigit).foldl (fun n d => n * 10 + digitValue d) 0
      .ok (if isNegative then -value else value, cs.dropWhile Char.isDigit)
    else .error .malformed

/-- A letter that announces an exponent. -/
def isExponentLetter (c : Char) : Bool := c == 'e' || c == 'E'

/-- Reads the exponent of a number, if it has one, and puts the number together. -/
def withExponent (isNegative : Bool) (digits : Nat) (exponent : Int) (cs : List Char) :
    Except Problem (Number × List Char) :=
  match cs with
  | [] => (Number.ofParts isNegative digits exponent).map (·, [])
  | c :: rest =>
    if isExponentLetter c then do
      let (shift, rest) ← exponentDigits rest
      let number ← Number.ofParts isNegative digits (exponent + shift)
      pure (number, rest)
    else (Number.ofParts isNegative digits exponent).map (·, cs)

/-- Reads what follows the digits before the point, of which `dropped` did not fit. -/
def afterInteger (isNegative : Bool) (digits dropped : Nat) (cs : List Char) :
    Except Problem (Number × List Char) :=
  match cs with
  | '.' :: places =>
    if places.isEmpty then .error .cut
    else if ! startsWithDigit places then .error .malformed
    else
      let (digits, rest) := significand digits places
      withExponent isNegative digits (dropped - (places.length - rest.length : Nat))
        (rest.dropWhile Char.isDigit)
  | _ =>
    if 0 < dropped || (cs.head?.any isExponentLetter) then withExponent isNegative digits dropped cs
    else (Number.ofInteger isNegative digits).map (·, cs)

/-- Reads a number without its sign. -/
def magnitude (isNegative : Bool) : List Char → Except Problem (Number × List Char)
  | [] => .error .cut
  | c :: cs =>
    if c = '0' then
      if startsWithDigit cs then .error .malformed else afterInteger isNegative 0 0 cs
    else if c.isDigit then
      let (digits, rest) := significand (digitValue c) cs
      afterInteger isNegative digits (rest.takeWhile Char.isDigit).length
        (rest.dropWhile Char.isDigit)
    else .error .malformed

/-- Reads a number. -/
def Number.read : List Char → Except Problem (Number × List Char)
  | '-' :: cs => magnitude true cs
  | cs => magnitude false cs

/-! ## Numbers that are skipped -/

/-- Skips the exponent of a number, if it has one. -/
def skipExponent (cs : List Char) : Except Problem (List Char) :=
  match cs with
  | [] => .ok []
  | c :: rest =>
    if isExponentLetter c then
      let (_, rest) := exponentSign rest
      if startsWithDigit rest then .ok (rest.dropWhile Char.isDigit) else .error .malformed
    else .ok cs

/-- Skips what follows the digits before the point. -/
def skipPlaces : List Char → Except Problem (List Char)
  | '.' :: places =>
    if startsWithDigit places then skipExponent (places.dropWhile Char.isDigit)
    else .error .malformed
  | cs => skipExponent cs

/-- Skips a number without its sign. -/
def skipMagnitude : List Char → Except Problem (List Char)
  | [] => .error .malformed
  | c :: cs =>
    if c = '0' then if startsWithDigit cs then .error .malformed else skipPlaces cs
    else if c.isDigit then skipPlaces (cs.dropWhile Char.isDigit)
    else .error .malformed

/-- Skips a number. -/
def skipNumber : List Char → Except Problem (List Char)
  | '-' :: cs => skipMagnitude cs
  | cs => skipMagnitude cs

end Dialogue.Json
