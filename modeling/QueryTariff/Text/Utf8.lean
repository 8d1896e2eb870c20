import QueryTariff.Text.Digits

/-!
Decoding UTF-8. What is not UTF-8 is reported by the length of the text before it and the length of
the longest part of it that could still have begun a character.
-/

namespace QueryTariff.Utf8

/-- Bytes that are no character, `length?` of them from `index` on; no length is given if the text
just ends too early. -/
structure Fault where
  index : Nat
  length? : Option Nat
deriving DecidableEq, Repr

def Fault.message (f : Fault) : String :=
  match f.length? with
  | some n => "invalid utf-8 sequence of " ++ toString n ++ " bytes from index " ++ toString f.index
  | none => "incomplete utf-8 byte sequence from index " ++ toString f.index

/-- A byte and the range in which it must lie. -/
def within (low high : Nat) (b : UInt8) : Bool := low ≤ b.toNat && b.toNat ≤ high

def isTail (b : UInt8) : Bool := within 0x80 0xBF b

/-- How many bytes follow the first one of a character, and the range of the first of those. -/
def lead? (b : UInt8) : Option (Nat × Nat × Nat) :=
  let n := b.toNat
  if n < 0x80 then some (0, 0x80, 0xBF)
  else if n < 0xC2 then none
  else if n ≤ 0xDF then some (1, 0x80, 0xBF)
  else if n = 0xE0 then some (2, 0xA0, 0xBF)
  else if n = 0xED then some (2, 0x80, 0x9F)
  else if n ≤ 0xEF then some (2, 0x80, 0xBF)
  else if n = 0xF0 then some (3, 0x90, 0xBF)
  else if n ≤ 0xF3 then some (3, 0x80, 0xBF)
  else if n = 0xF4 then some (3, 0x80, 0x8F)
  else none

/-- Further bytes of a character, of which `seen` were read before: their bits, or the length of the
part that could begin a character, none if the text ends. -/
def tails (seen : Nat) : Nat → List UInt8 → Except (Option Nat) (List UInt8)
  | 0, _ => .ok []
  | _ + 1, [] => .error none
  | n + 1, b :: r =>
    if isTail b then (tails (seen + 1) n r).map (b :: ·) else .error (some seen)

/-- The bytes of the first character, or why there is none. -/
def firstBytes : List UInt8 → Except (Option Nat) (List UInt8)
  | [] => .error none
  | a :: r =>
    match lead? a with
    | none => .error (some 1)
    | some (0, _, _) => .ok [a]
    | some (n + 1, low, high) =>
      match r with
      | [] => .error none
      | b :: r =>
        if within low high b then (tails 2 n r).map fun bs => a :: b :: bs
        else .error (some 1)

/-- The code point that the bytes of one character stand for. -/
def codePoint : List UInt8 → Nat
  | [a] => a.toNat
  | [a, b] => 64 * (a.toNat % 32) + b.toNat % 64
  | [a, b, c] => 4096 * (a.toNat % 16) + 64 * (b.toNat % 64) + c.toNat % 64
  | [a, b, c, d] =>
    262144 * (a.toNat % 8) + 4096 * (b.toNat % 64) + 64 * (c.toNat % 64) + d.toNat % 64
  | _ => 0

/-- The characters from byte `index` on. -/
def decodeFrom (index : Nat) (bytes : List UInt8) : Except Fault (List Char) :=
  match bytes with
  | [] => .ok []
  | b :: r =>
    match firstBytes (b :: r) with
    | .error length? => .error ⟨index, length?⟩
    | .ok bs =>
      match decodeFrom (index + bs.length) (r.drop (bs.length - 1)) with
      | .error f => .error f
      | .ok cs => .ok (Char.ofNat (codePoint bs) :: cs)
termination_by bytes.length
decreasing_by rw [List.length_drop, List.length_cons]; omega

def decode (bytes : List UInt8) : Except Fault (List Char) := decodeFrom 0 bytes

end QueryTariff.Utf8
