import QueryTariff.Document
import QueryTariff.Text.BlockString
import QueryTariff.Number.Shortest

/-!
Writing a query document: two spaces a level, one selection a line, a blank line between
definitions.
-/

namespace QueryTariff

namespace Printer

def margin (indent : Nat) : List Char := List.replicate indent ' '

/-! ### Strings -/

/-- Characters that stand for themselves between quotes. -/
def isPlain (c : Char) : Bool := 0x20 ≤ c.toNat && c.toNat ≤ 0xFFFF

/-- A number with at least four digits. -/
def fourDigits (n : Nat) : List Char :=
  let ds := Nat.toDigits 10 n
  List.replicate (4 - ds.length) '0' ++ ds

/-- A character between quotes. One that cannot stand there is given by its decimal code point. -/
def escapeChar (c : Char) : List Char :=
  match c with
  | '\r' => ['\\', 'r']
  | '\n' => ['\\', 'n']
  | '\t' => ['\\', 't']
  | '"' => ['\\', '"']
  | '\\' => ['\\', '\\']
  | c => if isPlain c then [c] else '\\' :: 'u' :: fourDigits c.toNat

def quote (cs : List Char) : List Char := '"' :: cs.flatMap escapeChar ++ ['"']

/-- Whether a text is set as a block: it has several lines and nothing in it needs a code point. -/
def setsAsBlock (cs : List Char) : Bool :=
  cs.contains '\n' && cs.all fun c => isPlain c || c == '\r' || c == '\t' || c == '\n'

def tripleQuote : List Char := ['"', '"', '"']

/-- A text in a block, two spaces further in than the line it starts on. -/
def block (indent : Nat) (cs : List Char) : List Char :=
  let body := BlockString.setLines (margin (indent + 2)) cs
  tripleQuote ++ '\n' :: body.flatMap (· ++ ['\n']) ++ margin indent ++ tripleQuote

def string (indent : Nat) (s : String) : String :=
  String.ofList (if setsAsBlock s.toList then block indent s.toList else quote s.toList)

/-! ### Values -/

def commaSeparated (parts : List String) : String := String.intercalate ", " parts

mutual

def value (indent : Nat) : Value → String
  | .var n => "$" ++ n
  | .int n => toString n
  | .float x => x.text
  | .string s => string indent s
  | .boolean b => if b then "true" else "false"
  | .null => "null"
  | .enum n => n
  | .list items => "[" ++ commaSeparated (values indent items) ++ "]"
  | .object ms => "\x7b" ++ commaSeparated (labelled indent ms) ++ "\x7d"

def values (indent : Nat) : List Value → List String
  | [] => []
  | v :: r => value indent v :: values indent r

def labelled (indent : Nat) : List (String × Value) → List String
  | [] => []
  | (n, v) :: r => (n ++ ": " ++ value indent v) :: labelled indent r

end

def arguments (indent : Nat) (as : Arguments) : String :=
  if as.isEmpty then "" else "(" ++ commaSeparated (labelled indent as) ++ ")"

/-- Directives, each behind a space. -/
def directives (indent : Nat) (ds : List Directive) : String :=
  String.join (ds.map fun d => " @" ++ d.name ++ arguments indent d.arguments)

/-! ### Selections -/

def fieldHead (indent : Nat) (h : FieldHead) : String :=
  let label := match h.alias? with
    | some a => a ++ ": "
    | none => ""
  label ++ h.name ++ arguments indent h.arguments ++ directives indent h.directives

/-- The line that opens a block. -/
def opening (head : String) : String := if head.isEmpty then "\x7b\n" else head ++ " \x7b\n"

def selections (indent : Nat) : List Selection → String
  | [] => ""
  | .field h _ items :: rest =>
    let pad := String.ofList (margin indent)
    let head := pad ++ fieldHead indent h
    let own := match items with
      | [] => head ++ "\n"
      | items => opening head ++ selections (indent + 2) items ++ pad ++ "\x7d\n"
    own ++ selections indent rest
  | .spread _ n ds :: rest =>
    String.ofList (margin indent) ++ "..." ++ n ++ directives indent ds ++ "\n" ++
      selections indent rest
  | .inlineFragment _ on? ds _ items :: rest =>
    let pad := String.ofList (margin indent)
    let condition := match on? with
      | some t => " on " ++ t
      | none => ""
    opening (pad ++ "..." ++ condition ++ directives indent ds) ++
      selections (indent + 2) items ++ pad ++ "\x7d\n" ++ selections indent rest

/-! ### Definitions -/

def variableDefinition (v : VariableDefinition) : String :=
  let default := match v.default? with
    | some x => " = " ++ value 0 x
    | none => ""
  "$" ++ v.name ++ ": " ++ v.type.text ++ default

/-- The variables of an operation. Those of a subscription appear only behind its name, and nothing
divides them. -/
def variableDefinitions (h : OperationHead) : String :=
  let parts := h.parameters.map variableDefinition
  if parts.isEmpty then ""
  else match h.kind, h.name? with
    | .subscription, none => ""
    | .subscription, some _ => "(" ++ String.join parts ++ ")"
    | _, _ => "(" ++ commaSeparated parts ++ ")"

def operationHead (h : OperationHead) : String :=
  let name := match h.name? with
    | some n => " " ++ n
    | none => ""
  h.kind.text ++ name ++ variableDefinitions h ++ directives 0 h.directives

def fragmentHead (f : Fragment) : String :=
  "fragment " ++ f.name ++ " on " ++ f.on ++ directives 0 f.directives

def braced (head : String) (s : SelectionSet) : String :=
  opening head ++ selections 2 s.items ++ "\x7d\n"

def definition : Definition → String
  | .operation o => braced ((o.head?.map operationHead).getD "") o.body
  | .fragment f => braced (fragmentHead f) f.body

end Printer

/-- The document as text. -/
def Document.render (d : Document) : String :=
  String.intercalate "\n" (d.definitions.map Printer.definition)

end QueryTariff
