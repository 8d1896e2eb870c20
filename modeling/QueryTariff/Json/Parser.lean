import QueryTariff.Json
import QueryTariff.Number.Decimal

/-!
Reading JSON text, strictly: no leading zeros, no trailing commas, no control characters in strings,
no half of a surrogate pair, and no number beyond the range of doubles.
-/

namespace QueryTariff.Json

/-- Readers take characters off the front of a text. -/
abbrev Reader := StateT (List Char) Option

namespace Reader

open Text (natOfDigits natOfHex? character?)

variable {α : Type}

/-- Arrays and objects nest this deep. -/
def maxNesting : Nat := 127

def isBlank (c : Char) : Bool := c == ' ' || c == '\n' || c == '\t' || c == '\r'

def skipBlanks : Reader Unit := fun cs => some ((), cs.dropWhile isBlank)

def peek : Reader (Option Char) := fun cs => some (cs.head?, cs)

def expect (c : Char) : Reader Unit
  | d :: r => if c == d then some ((), r) else none
  | [] => none

/-- Takes the word `w`. -/
def word (w : List Char) : Reader Unit := fun cs =>
  if w.isPrefixOf cs then some ((), cs.drop w.length) else none

/-! ### Strings -/

def isHighSurrogate (n : Nat) : Bool := 0xD800 ≤ n && n ≤ 0xDBFF

def isLowSurrogate (n : Nat) : Bool := 0xDC00 ≤ n && n ≤ 0xDFFF

def simpleEscape? : Char → Option Char
  | '"' => some '"'
  | '\\' => some '\\'
  | '/' => some '/'
  | 'b' => some '\x08'
  | 'f' => some '\x0c'
  | 'n' => some '\n'
  | 'r' => some '\r'
  | 't' => some '\t'
  | _ => none

/-- The rest of a string up to and with its closing quote. -/
def stringBody : List Char → Option (List Char × List Char)
  | [] => none
  | '"' :: r => some ([], r)
  | '\\' :: 'u' :: a :: b :: c :: d :: r => do
    let n ← natOfHex? [a, b, c, d]
    if isHighSurrogate n then
      match r with
      | '\\' :: 'u' :: a :: b :: c :: d :: r =>
        let m ← natOfHex? [a, b, c, d]
        if isLowSurrogate m then
          let x ← character? (0x10000 + 0x400 * (n - 0xD800) + (m - 0xDC00))
          let (s, r) ← stringBody r
          return (x :: s, r)
        else none
      | _ => none
    else
      let x ← character? n
      let (s, r) ← stringBody r
      return (x :: s, r)
  | '\\' :: c :: r => do
    let x ← simpleEscape? c
    let (s, r) ← stringBody r
    return (x :: s, r)
  | c :: r => do
    if c.toNat < 0x20 || c == '\\' then none
    else
      let (s, r) ← stringBody r
      return (c :: s, r)

def string : Reader String := do
  expect '"'
  return String.ofList (← stringBody)

/-! ### Numbers -/

/-- Digits, at least one. -/
def digits : Reader (List Char) := fun cs =>
  let ds := cs.takeWhile Char.isDigit
  if ds.isEmpty then none else some (ds, cs.dropWhile Char.isDigit)

/-- Takes the character if it comes next. -/
def accept (p : Char → Bool) : Reader Bool := do
  match ← peek with
  | some c => if p c then do expect c; return true else return false
  | none => return false

def fraction : Reader (Option (List Char)) := do
  if ← accept (· == '.') then return some (← digits) else return none

def exponent : Reader (Option Int) := do
  if ← accept (fun c => c == 'e' || c == 'E') then
    let negative ← accept (· == '-')
    if !negative then let _ ← accept (· == '+')
    let n : Int := natOfDigits (← digits)
    return some (if negative then -n else n)
  else return none

/-- The value of a whole number: an integer if it fits 64 bits, with a sign or without. A zero with
a sign is no integer. -/
def ofWhole (negative : Bool) (digits : List Char) : Json :=
  let n := natOfDigits digits
  if negative ∧ 0 < n ∧ n ≤ 0x8000000000000000 then integer (-n)
  else if !negative ∧ n ≤ 0xFFFFFFFFFFFFFFFF then integer n
  else float ((Decimal.ofDigits digits []).toDouble negative)

def isFiniteNumber : Json → Bool
  | float x => !x.isInfinite
  | _ => true

def number : Reader Json := do
  let negative ← accept (· == '-')
  let whole ← digits
  if whole.head? = some '0' ∧ whole.length ≠ 1 then failure
  let fraction? ← fraction
  let exponent? ← exponent
  let j := match fraction?, exponent? with
    | none, none => ofWhole negative whole
    | f?, e? =>
      float (((Decimal.ofDigits whole (f?.getD [])).shift (e?.getD 0)).toDouble negative)
  if isFiniteNumber j then return j else failure

/-! ### Values -/

/-- Items divided by commas, up to the character `close`. -/
def items (close : Char) (item : Reader α) (cs : List Char) : Option (List α × List Char) :=
  match item cs with
  | none => none
  | some (a, r) =>
    match r.dropWhile isBlank with
    | [] => none
    | c :: r =>
      if c == close then some ([a], r)
      else if c == ',' ∧ r.length < cs.length then
        match items close item r with
        | none => none
        | some (as, r) => some (a :: as, r)
      else none
termination_by cs.length

/-- Items between an opening character, which is still to come, and `close`. -/
def bracketed (opening close : Char) (item : Reader α) : Reader (List α) := do
  expect opening
  skipBlanks
  if ← accept (· == close) then return [] else items close item

def atom : Reader Json := do
  match ← peek with
  | some 'n' => word ['n', 'u', 'l', 'l']; return null
  | some 't' => word ['t', 'r', 'u', 'e']; return bool true
  | some 'f' => word ['f', 'a', 'l', 's', 'e']; return bool false
  | some '"' => return .string (← string)
  | _ => number

/-- A member of an object. -/
def member (value : Reader Json) : Reader (String × Json) := do
  skipBlanks
  let name ← string
  skipBlanks
  expect ':'
  return (name, ← value)

/-- A value after any blanks. The number says how many more arrays and objects may be opened. -/
def value : Nat → Reader Json
  | 0 => do skipBlanks; atom
  | depth + 1 => do
    skipBlanks
    match ← peek with
    | some '[' => return array (← bracketed '[' ']' (value depth))
    | some '{' => return object (← bracketed '{' '}' (member (value depth)))
    | _ => atom

end Reader

/-- The value that a text stands for, if it is JSON. -/
def parse? (text : String) : Option Json :=
  match Reader.value Reader.maxNesting text.toList with
  | none => none
  | some (j, r) => if r.all Reader.isBlank then some j else none

end QueryTariff.Json
