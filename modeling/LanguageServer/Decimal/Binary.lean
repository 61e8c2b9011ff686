namespace LanguageServer
namespace Decimal

/-!
Binary numbers with 53 significant bits, and the values of decimal literals
among them.  Every operation is exact on natural numbers and then rounded once
to the nearest value, a tie going to the even significand.  A literal is read
in steps: its digits are rounded, and the result is multiplied or divided by a
rounded power of ten.  The value is therefore near the literal, and not always
the one nearest to it.
-/

/-- A value that is not negative: `significand * 2 ^ exponent`. -/
structure Binary where
  significand : Nat
  exponent : Int
  deriving DecidableEq, Repr

/-- The quotient rounded to the nearest whole number, ties to even. -/
def roundDiv (numerator denominator : Nat) : Nat :=
  let quotient := numerator / denominator
  let twice := 2 * (numerator % denominator)
  if twice < denominator then quotient
  else if denominator < twice then quotient + 1
  else if quotient % 2 = 0 then quotient
  else quotient + 1

/-- `numerator / denominator` times `base ^ exponent`, as a fraction. -/
def scale (numerator denominator base : Nat) (exponent : Int) : Nat × Nat :=
  if 0 ≤ exponent then (numerator * base.pow exponent.toNat, denominator)
  else (numerator, denominator * base.pow (-exponent).toNat)

namespace Binary

/-- The least exponent of a significand. -/
def leastExponent : Int := -1074

/-- The greatest exponent of a significand. -/
def greatestExponent : Int := 971

/-- Nothing. -/
def zero : Binary := ⟨0, leastExponent⟩

/-- The value nearest to a fraction.  The significand has 53 bits unless the
exponent is already the least one. -/
def nearest (numerator denominator : Nat) : Binary :=
  if numerator = 0 then zero
  else
    let size : Int := Nat.log2 numerator - Nat.log2 denominator
    let fits (exponent : Int) : Bool :=
      let (n, d) := scale numerator denominator 2 (-exponent)
      Nat.pow 2 52 * d ≤ n
    let guess := size - 52
    let exponent := max leastExponent (if fits guess then guess else guess - 1)
    let (n, d) := scale numerator denominator 2 (-exponent)
    let significand := roundDiv n d
    if significand = Nat.pow 2 53 then ⟨Nat.pow 2 52, exponent + 1⟩ else ⟨significand, exponent⟩

/-- The rounded product. -/
def times (left right : Binary) : Binary :=
  let (n, d) :=
    scale (left.significand * right.significand) 1 2 (left.exponent + right.exponent)
  nearest n d

/-- The rounded quotient. -/
def dividedBy (left right : Binary) : Binary :=
  let (n, d) :=
    scale left.significand right.significand 2 (left.exponent - right.exponent)
  nearest n d

/-- The greatest power of ten below the range of values. -/
def greatestPower : Nat := 308

/-- The value nearest to a power of ten. -/
def powerOfTen (places : Nat) : Binary := nearest (Nat.pow 10 places) 1

/-- Moves the decimal point to the left, by no more than the greatest power of
ten at a time, until nothing is left. -/
def shiftLeft (value : Binary) (places : Nat) : Binary :=
  if places ≤ greatestPower then value.dividedBy (powerOfTen places)
  else if value.significand = 0 then value
  else (value.dividedBy (powerOfTen greatestPower)).shiftLeft (places - greatestPower)
termination_by places
decreasing_by
  simp only [greatestPower] at *
  omega

/-- Moves the decimal point to the right; none when the result is out of
range. -/
def shiftRight? (value : Binary) (places : Nat) : Option Binary :=
  if value.significand = 0 then some value
  else if places ≤ greatestPower then
    let result := value.times (powerOfTen places)
    if result.exponent ≤ greatestExponent then some result else none
  else none

/-- The value of `digits * 10 ^ exponent`; none when it is out of range. -/
def ofDecimal? (digits : Nat) (exponent : Int) : Option Binary :=
  if 0 ≤ exponent then (nearest digits 1).shiftRight? exponent.toNat
  else some ((nearest digits 1).shiftLeft (-exponent).toNat)

end Binary
end Decimal
end LanguageServer
