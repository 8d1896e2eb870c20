/-!
Lines of a text and its blank characters.
-/

namespace QueryTariff.Text

/-- Characters with the Unicode property White_Space. -/
def isBlank (c : Char) : Bool :=
  let n := c.toNat
  (9 ≤ n && n ≤ 13) || n == 0x20 || n == 0x85 || n == 0xA0 || n == 0x1680 ||
    (0x2000 ≤ n && n ≤ 0x200A) || n == 0x2028 || n == 0x2029 || n == 0x202F || n == 0x205F ||
    n == 0x3000

/-- The length in bytes of the UTF-8 form. -/
def byteCount : List Char → Nat
  | [] => 0
  | c :: r => c.utf8Size + byteCount r

/-- Without the blank characters at both ends. -/
def trim (cs : List Char) : List Char :=
  ((cs.dropWhile isBlank).reverse.dropWhile isBlank).reverse

/-- The piece before the first line feed, and the pieces after it. -/
def pieces : List Char → List Char × List (List Char)
  | [] => ([], [])
  | c :: r =>
    match pieces r with
    | (l, ls) => if c = '\n' then ([], l :: ls) else (c :: l, ls)

/-- The same without one carriage return at the end. -/
def dropReturn (cs : List Char) : List Char :=
  if cs.getLast? = some '\r' then cs.dropLast else cs

/-- Pieces that a line feed ended lose a carriage return; a last piece that is empty is no line. -/
def finishLines (l : List Char) : List (List Char) → List (List Char)
  | [] => if l.isEmpty then [] else [l]
  | m :: ms => dropReturn l :: finishLines m ms

/-- The lines of a text: a line feed, with a carriage return before it or without, ends a line. -/
def lines (cs : List Char) : List (List Char) := finishLines (pieces cs).1 (pieces cs).2

end QueryTariff.Text
