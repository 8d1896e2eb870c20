/-!
Binary numbers of double width, read from decimals by rounding to the nearest one.
-/

namespace QueryTariff

/-- A number `significand · 2 ^ exponent` with a sign, or an infinity. The significand has at most
53 bits, and the exponent is at least -1074. -/
inductive Double where
  | finite (negative : Bool) (significand : Nat) (exponent : Int)
  | infinite (negative : Bool)
deriving DecidableEq, Repr

namespace Double

/-- The smallest exponent, that of the numbers next to zero. -/
def minExponent : Int := -1074

/-- Above this exponent a significand of 53 bits is no number any more. -/
def maxExponent : Int := 971

/-- The smallest significand of 53 bits. -/
def topBit : Nat := 0x10000000000000

/-- The quotient `n / d` rounded to the nearest whole number, a half to the even one. -/
def roundDiv (n d : Nat) : Nat :=
  let q := n / d
  let twice := 2 * (n % d)
  if twice < d then q else if d < twice then q + 1 else q + q % 2

/-- The quotient `n / (d · 2 ^ e)` as a fraction of whole numbers. -/
def scaled (n d : Nat) (e : Int) : Nat × Nat :=
  if e < 0 then (n * Nat.pow 2 e.natAbs, d) else (n, d * Nat.pow 2 e.natAbs)

/-- The exponent at which `n / d` has a whole part of 53 bits, or the smallest exponent. -/
def exponentOf (n d : Nat) : Int :=
  let guess : Int := (n.log2 : Int) - (d.log2 : Int) - 52
  let e := match scaled n d guess with
    | (a, b) => if a / b < topBit then guess - 1 else guess
  max e minExponent

/-- The number nearest to `n / d`, an infinity if that is out of range. -/
def ofRatio (negative : Bool) (n d : Nat) : Double :=
  if n = 0 then finite negative 0 minExponent
  else
    let e := exponentOf n d
    let m := match scaled n d e with
      | (a, b) => roundDiv a b
    let (m, e) := if m = 2 * topBit then (topBit, e + 1) else (m, e)
    if maxExponent < e then infinite negative else finite negative m e

/-- How many decimal digits `n` has. -/
def digitCount (n : Nat) : Nat := (Nat.toDigits 10 n).length

/-- The number nearest to `n · 10 ^ e`. Magnitudes far out of range are settled by counting digits.
-/
def ofDecimal (negative : Bool) (n : Nat) (e : Int) : Double :=
  if n = 0 then finite negative 0 minExponent
  else
    let size : Int := digitCount n + e
    if 310 < size then infinite negative
    else if size < -330 then finite negative 0 minExponent
    else if 0 ≤ e then ofRatio negative (n * Nat.pow 10 e.natAbs) 1
    else ofRatio negative n (Nat.pow 10 e.natAbs)

/-- The product, rounded to the nearest number. An infinity stays one. -/
def mul : Double → Double → Double
  | finite s m e, finite t n f =>
    match scaled (m * n) 1 (-(e + f)) with
    | (a, b) => ofRatio (s != t) a b
  | finite s _ _, infinite t => infinite (s != t)
  | infinite s, finite t _ _ => infinite (s != t)
  | infinite s, infinite t => infinite (s != t)

/-- The quotient, rounded to the nearest number. A division by zero gives an infinity, an
infinity stays one, and a finite number divided by it leaves zero. -/
def div : Double → Double → Double
  | finite s m e, finite t n f =>
    if n = 0 then infinite (s != t)
    else
      match scaled m n (-(e - f)) with
      | (a, b) => ofRatio (s != t) a b
  | finite s _ _, infinite t => finite (s != t) 0 minExponent
  | infinite s, finite t _ _ => infinite (s != t)
  | infinite s, infinite t => infinite (s != t)

def isNegative : Double → Bool
  | finite s _ _ => s
  | infinite s => s

def isZero : Double → Bool
  | finite _ m _ => m = 0
  | infinite _ => false

def isInfinite : Double → Bool
  | infinite _ => true
  | finite .. => false

end Double

end QueryTariff
