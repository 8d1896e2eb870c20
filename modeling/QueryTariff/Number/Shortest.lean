import QueryTariff.Number.Double

/-!
The decimal text of a double: the fewest digits that read back as the same number, and of those the
nearest. It is written out in full, without an exponent and without a fraction of zero.
-/

namespace QueryTariff.Double

/-- The reals that round to `significand · 2 ^ exponent`, in quarters of the last place: the value
and the two ends, which belong to the interval if the significand is even. -/
structure Neighbourhood where
  value : Nat
  low : Nat
  high : Nat
  closed : Bool
  exponent : Int

/-- Just above a power of two the number below is only half as far away. -/
def neighbourhood (m : Nat) (e : Int) : Neighbourhood where
  value := 4 * m
  low := if m = topBit ∧ minExponent < e then 4 * m - 1 else 4 * m - 2
  high := 4 * m + 2
  closed := m % 2 = 0
  exponent := e - 2

/-- Factors `a`, `b` such that `x · 2 ^ exponent` and `d · 10 ^ p` compare as `x · a` and `d · b`.
-/
def factors (exponent p : Int) : Nat × Nat :=
  (Nat.pow 2 exponent.toNat * Nat.pow 10 (-p).toNat,
    Nat.pow 2 (-exponent).toNat * Nat.pow 10 p.toNat)

/-- Whether `d` steps of the grid lie in the neighbourhood. -/
def Neighbourhood.holds (s : Neighbourhood) (a b d : Nat) : Bool :=
  if s.closed then s.low * a ≤ d * b && d * b ≤ s.high * a
  else s.low * a < d * b && d * b < s.high * a

/-- The point of the grid `10 ^ p` that stands for the value, if one of its two neighbours there
lies in the neighbourhood: the nearer one, and the upper one if both are as near. -/
def Neighbourhood.onGrid (s : Neighbourhood) (p : Int) : Option Nat :=
  match factors s.exponent p with
  | (a, b) =>
    let d := s.value * a / b
    match s.holds a b d && d != 0, s.holds a b (d + 1) with
    | true, true => if 2 * (s.value * a) < (2 * d + 1) * b then some d else some (d + 1)
    | true, false => some d
    | false, true => some (d + 1)
    | false, false => none

/-- The first of `n` ever finer grids from `10 ^ p` on that has a point for the value. -/
def Neighbourhood.coarsest (s : Neighbourhood) : Nat → Int → Option (Nat × Int)
  | 0, _ => none
  | n + 1, p =>
    match s.onGrid p with
    | some d => some (d, p)
    | none => s.coarsest n (p - 1)

/-- A power of ten that is larger than `m · 2 ^ e`. -/
def decimalBound (m : Nat) (e : Int) : Int := ((m.log2 : Int) + 1 + e) * 30103 / 100000 + 2

/-- The shortest decimal `d · 10 ^ p` that reads back. Seventeen digits always do. -/
def shortest (m : Nat) (e : Int) : Nat × Int :=
  ((neighbourhood m e).coarsest 24 (decimalBound m e)).getD (m, e)

/-- The decimal `d · 10 ^ p` written out in full. -/
def positional (d : Nat) (p : Int) : List Char :=
  let ds := Nat.toDigits 10 d
  if 0 ≤ p then ds ++ List.replicate p.natAbs '0'
  else
    let places := p.natAbs
    if ds.length ≤ places then '0' :: '.' :: List.replicate (places - ds.length) '0' ++ ds
    else ds.take (ds.length - places) ++ '.' :: ds.drop (ds.length - places)

/-- The text of a number. Zero keeps its sign. -/
def text : Double → String
  | infinite negative => if negative then "-inf" else "inf"
  | finite negative m e =>
    let digits := if m = 0 then ['0'] else match shortest m e with
      | (d, p) => positional d p
    String.ofList (if negative then '-' :: digits else digits)

end QueryTariff.Double
