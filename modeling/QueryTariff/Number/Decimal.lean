import QueryTariff.Number.Double
import QueryTariff.Text.Digits

/-!
Decimals of limited precision: a significand of 64 bits and a power of ten.

Digits that find no room in the significand are left out, and the double of a decimal is one product
or quotient of doubles. So a long decimal may miss its nearest double by a little, and one just
below the largest double may be out of range.
-/

namespace QueryTariff

/-- The number `significand · 10 ^ exponent`. -/
structure Decimal where
  significand : Nat
  exponent : Int
deriving DecidableEq, Repr

namespace Decimal

/-- The largest significand. -/
def maxSignificand : Nat := 0xFFFFFFFFFFFFFFFF

/-- Puts digits behind a significand, up to the first one that finds no room. The second number says
how many digits are left out. -/
def append (n : Nat) : List Char → Nat × Nat
  | [] => (n, 0)
  | c :: cs =>
    let m := Text.natOfDigits [c] + 10 * n
    if m ≤ maxSignificand then append m cs else (n, cs.length + 1)

/-- The decimal with these digits before and behind its point. A digit left out before the point
still counts as a place. -/
def ofDigits (whole fraction : List Char) : Decimal :=
  match append 0 whole with
  | (n, places) =>
    match append n fraction with
    | (m, rest) => ⟨m, (places : Int) - (fraction.length - rest : Nat)⟩

/-- The decimal times a power of ten. -/
def shift (d : Decimal) (e : Int) : Decimal := ⟨d.significand, d.exponent + e⟩

/-- Powers of ten up to this exponent are doubles. -/
def maxPower : Nat := 308

/-- The double nearest to a power of ten. -/
def powerOfTen (e : Nat) : Double := Double.ofDecimal false 1 e

/-- The double `x` times `10 ^ e`. Each step rounds, and a power below `10 ^ -308` takes several
divisions. -/
def scale (x : Double) (e : Int) : Double :=
  if e.natAbs ≤ maxPower then
    if 0 ≤ e then x.mul (powerOfTen e.natAbs) else x.div (powerOfTen e.natAbs)
  else if x.isZero then x
  else if 0 ≤ e then .infinite x.isNegative
  else scale (x.div (powerOfTen maxPower)) (e + maxPower)
termination_by e.natAbs
decreasing_by
  simp only [maxPower] at *
  omega

/-- The double that stands for the decimal, or for its opposite; an infinity if it is out of range.
-/
def toDouble (negative : Bool) (d : Decimal) : Double :=
  scale (Double.ofDecimal negative d.significand 0) d.exponent

end Decimal

end QueryTariff
