/-!
Text that is safe to send to a terminal.

Some characters do not show on a terminal but make it do something: ring, move, change its colours.
They are spelt out, so that a text taken from a file or a setting only ever shows.
-/

namespace QueryTariff.Text

/-- The controls of eight bits, each of which opens a command on some terminals. -/
def isWideControl (c : Char) : Bool := 0x80 ≤ c.toNat && c.toNat ≤ 0x9F

/-- A character as it is sent to a terminal. Tabs and line ends are sent as they are. -/
def showChar (c : Char) : List Char :=
  match c with
  | '\x07' => ['\\', 'x', '0', '7']
  | '\x08' => ['\\', 'x', '0', '8']
  | '\x0c' => ['\\', 'x', '0', 'c']
  | '\x1b' => ['\\', 'x', '1', 'b']
  | '\x7f' => ['\\', 'x', '7', 'f']
  | c => if isWideControl c then ['\\', 'u', '{'] ++ Nat.toDigits 16 c.toNat ++ ['}'] else [c]

/-- The text as it is sent to a terminal. -/
def shown (s : String) : String := String.ofList (s.toList.flatMap showChar)

end QueryTariff.Text
