import QueryTariff.Text.Invisible

/-!
Text shown between quotes, so that a reader sees every character of it.
-/

namespace QueryTariff.Text

/-- A character between quotes: the quote and the backslash stand behind a backslash, and what shows
nothing is given by its code point. -/
def quoteChar (c : Char) : List Char :=
  match c with
  | '\x00' => ['\\', '0']
  | '\t' => ['\\', 't']
  | '\n' => ['\\', 'n']
  | '\r' => ['\\', 'r']
  | '"' => ['\\', '"']
  | '\\' => ['\\', '\\']
  | c => if isVisible c then [c] else ['\\', 'u', '{'] ++ Nat.toDigits 16 c.toNat ++ ['}']

/-- The text between quotes. -/
def quoted (s : String) : String := String.ofList ('"' :: s.toList.flatMap quoteChar ++ ['"'])

end QueryTariff.Text
