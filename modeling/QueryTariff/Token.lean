import QueryTariff.Text.Position
import QueryTariff.Text.BlockString
import QueryTariff.Text.Digits
import QueryTariff.Number.Double

/-!
Tokens of query and schema texts, and what their literals stand for.
-/

namespace QueryTariff

inductive Token where
  /-- One of `( ) [ ] { } ! $ : = @ | &`. -/
  | punctuator (c : Char)
  /-- Three dots. -/
  | ellipsis
  | name (text : String)
  | integer (text : List Char)
  | decimal (text : List Char)
  /-- What stands between two quotes, escapes and all. -/
  | quoted (body : List Char)
  /-- What stands between two triple quotes. -/
  | block (body : List Char)
deriving DecidableEq, Repr

namespace Token

open Text

def isPunctuator (c : Char) : Bool := "()[]\x7b\x7d!$:=@|&".toList.contains c

def isNameStart (c : Char) : Bool := c.isAlpha || c == '_'

def isNamePart (c : Char) : Bool := c.isAlphanum || c == '_'

/-- Characters that end a number. -/
def endsNumber (c : Char) : Bool := " \n\r\t,#!$:=@|&()[]\x7b\x7d".toList.contains c

/-! ### Numbers -/

/-- Splits at the last character that satisfies `p`, which is left out. -/
def splitLast (p : Char → Bool) : List Char → Option (List Char × List Char)
  | [] => none
  | c :: r =>
    match splitLast p r with
    | some (before, after) => some (c :: before, after)
    | none => if p c then some ([], r) else none

/-- A whole number without needless zeros. The first character is a minus sign or a digit. -/
def isWhole : List Char → Bool
  | [] => false
  | ['-'] => false
  | ['0'] => true
  | ['-', '0'] => true
  | '0' :: _ => false
  | '-' :: '0' :: _ => false
  | _ :: r => r.all Char.isDigit

def isDigits (cs : List Char) : Bool := !cs.isEmpty && cs.all Char.isDigit

/-- An exponent starts with a sign or one of the digits 1 to 8; digits may follow. -/
def isExponent : List Char → Bool
  | [] => false
  | c :: r => "+-12345678".toList.contains c && r.all Char.isDigit

/-- A number with its fraction, if it has one. -/
def isMantissa (cs : List Char) : Bool :=
  match splitLast (· == '.') cs with
  | none => isWhole cs
  | some (whole, fraction) => isWhole whole && isDigits fraction

/-- The token that a run of characters is which starts like a number. -/
def ofNumber? (cs : List Char) : Option Token :=
  match splitLast (fun c => c == 'e' || c == 'E') cs with
  | some (mantissa, exponent) =>
    if isMantissa mantissa && isExponent exponent then some (decimal cs) else none
  | none =>
    if isWhole cs then some (integer cs)
    else if isMantissa cs then some (decimal cs) else none

/-- The number that a sign and digits stand for. -/
def intOfText : List Char → Int
  | '-' :: r => -(natOfDigits r : Int)
  | '+' :: r => natOfDigits r
  | cs => natOfDigits cs

/-- Integers have 64 bits. -/
def inRange (n : Int) : Bool := -0x8000000000000000 ≤ n && n ≤ 0x7FFFFFFFFFFFFFFF

def integerValue (cs : List Char) : Option Int :=
  if inRange (intOfText cs) then some (intOfText cs) else none

/-- The decimal that a mantissa and an exponent stand for. -/
def doubleOf (mantissa : List Char) (exponent : Int) : Double :=
  let negative := mantissa.head? == some '-'
  let digits := if negative then mantissa.drop 1 else mantissa
  match splitLast (· == '.') digits with
  | none => Double.ofDecimal negative (natOfDigits digits) exponent
  | some (whole, fraction) =>
    Double.ofDecimal negative (natOfDigits (whole ++ fraction)) (exponent - fraction.length)

/-- The number a decimal token stands for; an exponent of a sign alone is none. -/
def decimalValue (cs : List Char) : Option Double :=
  match splitLast (fun c => c == 'e' || c == 'E') cs with
  | none => some (doubleOf cs 0)
  | some (mantissa, exponent) =>
    if exponent.any Char.isDigit then some (doubleOf mantissa (intOfText exponent)) else none

/-! ### Strings -/

/-- The character that four characters after `\u` name. A plus sign may stand first, and a surrogate
is no character. -/
def escapedCharacter? (a b c d : Char) : Option Char := do
  let n ← if a == '+' then natOfHex? [b, c, d] else natOfHex? [a, b, c, d]
  character? n

/-- The character that a backslash and one letter stand for. -/
def simpleEscape? : Char → Option Char
  | '"' => some '"'
  | '\\' => some '\\'
  | '/' => some '/'
  | 'b' => some '\x10'
  | 'f' => some '\x0c'
  | 'n' => some '\n'
  | 'r' => some '\r'
  | 't' => some '\t'
  | _ => none

/-- The text a quoted string stands for. -/
def quotedValue : List Char → Option (List Char)
  | [] => some []
  | '\\' :: 'u' :: a :: b :: c :: d :: r => do
    let x ← escapedCharacter? a b c d
    return x :: (← quotedValue r)
  | '\\' :: c :: r => do
    let x ← simpleEscape? c
    return x :: (← quotedValue r)
  | ['\\'] => none
  | c :: r => return c :: (← quotedValue r)

/-- The characters of a quoted string before the quote that ends it. No line feed may stand there.
-/
def quotedLength? : (escaped : Bool) → List Char → Option Nat
  | _, [] => none
  | escaped, c :: r =>
    if c == '"' && !escaped then some 0
    else if c == '\n' then none
    else (quotedLength? (!escaped && c == '\\') r).map (· + 1)

/-- The characters of a block string before the triple quote that ends it. -/
def blockLength? : (escaped : Bool) → List Char → Option Nat
  | _, [] => none
  | escaped, '"' :: '"' :: '"' :: r =>
    if escaped then (blockLength? false r).map (· + 3) else some 0
  | _, c :: r => (blockLength? (c == '\\') r).map (· + 1)

/-! ### One token -/

/-- The token that starts with `c`, and how many of the characters `r` after it belong to it. -/
def read? (c : Char) (r : List Char) : Option (Token × Nat) :=
  if isPunctuator c then some (punctuator c, 0)
  else if isNameStart c then
    let w := r.takeWhile isNamePart
    some (name (String.ofList (c :: w)), w.length)
  else if c == '-' || c.isDigit then
    let w := r.takeWhile (!endsNumber ·)
    (ofNumber? (c :: w)).map (·, w.length)
  else match c, r with
    | '.', '.' :: '.' :: _ => some (ellipsis, 2)
    | '"', '"' :: '"' :: r => (blockLength? false r).map fun n => (block (r.take n), n + 5)
    | '"', r => (quotedLength? false r).map fun n => (quoted (r.take n), n + 1)
    | _, _ => none

end Token

end QueryTariff
