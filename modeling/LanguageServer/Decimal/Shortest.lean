import LanguageServer.Decimal.Binary

namespace LanguageServer
namespace Decimal

/-!
Decimal texts of binary numbers.  A value is written with the fewest decimal
digits to which no other value is nearer; of those the nearest to it, a tie
going to the even digit string.  All steps are exact computations on natural
numbers.
-/

/-- The fractions, over one denominator, between which no other value is
nearer: lower end, value, upper end, denominator. -/
def interval (value : Binary) : Nat × Nat × Nat × Nat :=
  let m := value.significand
  let below := if m = Nat.pow 2 52 ∧ Binary.leastExponent < value.exponent then 1 else 2
  let (factor, denominator) := scale 1 1 2 (value.exponent - 2)
  ((4 * m - below) * factor, 4 * m * factor, (4 * m + 2) * factor, denominator)

/-- The place of the first decimal digit: the greatest `place` with
`10 ^ place` not above the fraction, searched downwards. -/
def leadingPlace (numerator denominator : Nat) : Nat → Int → Int
  | 0, place => place
  | steps + 1, place =>
      let (n, d) := scale numerator denominator 10 (-place)
      if d ≤ n then place else leadingPlace numerator denominator steps (place - 1)

/-- A number of decimal digits times a power of ten. -/
structure Digits where
  digits : Nat
  exponent : Int
  deriving DecidableEq, Repr

/-- The nearest decimal with `count` digits inside the interval of the value,
if there is one. -/
def withDigits? (value : Binary) (place : Int) (count : Nat) : Option Digits :=
  let (lower, middle, upper, denominator) := interval value
  let inclusive := value.significand % 2 = 0
  let exponent := place - count + 1
  let inside (candidate : Nat) : Bool :=
    let (n, d) := scale candidate 1 10 exponent
    let point := n * denominator
    if inclusive then lower * d ≤ point && point ≤ upper * d
    else lower * d < point && point < upper * d
  let (n, d) := scale middle denominator 10 (-exponent)
  let floor := n / d
  let twice := 2 * (n % d)
  let upFirst := d < twice || (twice == d && floor % 2 == 1)
  let candidates := if upFirst then [floor + 1, floor] else [floor, floor + 1]
  (candidates.find? inside).map fun candidate => ⟨candidate, exponent⟩

/-- Drops trailing zeros of the digit string. -/
def trim : Nat → Digits → Digits
  | 0, decimal => decimal
  | steps + 1, decimal =>
      if decimal.digits ≠ 0 ∧ decimal.digits % 10 = 0 then
        trim steps ⟨decimal.digits / 10, decimal.exponent + 1⟩
      else decimal

/-- The fewest digits that tell the value from every other one. -/
def shortest (value : Binary) : Digits :=
  let (n, d) := scale value.significand 1 2 value.exponent
  let place := leadingPlace n d 700 309
  let found := (List.range 17).findSome? fun count => withDigits? value place (count + 1)
  trim 20 (found.getD ⟨value.significand, value.exponent⟩)

/-- The power of ten behind a digit string, with its sign. -/
def powerText (power : Int) : String :=
  if 0 ≤ power then "e+" ++ toString power else "e" ++ toString power

/-- Digits with the point at its place while that place is near, and with a
power of ten otherwise. -/
def layout (decimal : Digits) : String :=
  let digits := Nat.toDigits 10 decimal.digits
  let point : Int := digits.length + decimal.exponent
  let zeros (count : Int) : List Char := List.replicate count.toNat '0'
  if 0 ≤ decimal.exponent ∧ point ≤ 16 then
    String.ofList (digits ++ zeros decimal.exponent) ++ ".0"
  else if 0 < point ∧ point ≤ 16 then
    String.ofList (digits.take point.toNat ++ '.' :: digits.drop point.toNat)
  else if -5 < point ∧ point ≤ 0 then
    "0." ++ String.ofList (zeros (-point) ++ digits)
  else
    let mantissa :=
      match digits with
      | [] => []
      | [only] => [only]
      | first :: rest => first :: '.' :: rest
    String.ofList mantissa ++ powerText (point - 1)

/-- The text of a value under a sign. -/
def render (negative : Bool) (value : Binary) : String :=
  let body := if value.significand = 0 then "0.0" else layout (shortest value)
  if negative then "-" ++ body else body

end Decimal
end LanguageServer
