import QueryTariff.Text.Lines

/-!
Block strings: what stands between two triple quotes, and how a text is set in such a block.
-/

namespace QueryTariff.BlockString

open Text

/-- Inside a block a triple quote is written with a backslash before it. -/
def unescape : List Char → List Char
  | [] => []
  | '\\' :: '"' :: '"' :: '"' :: r => '"' :: '"' :: '"' :: unescape r
  | c :: r => c :: unescape r

def escape : List Char → List Char
  | [] => []
  | '"' :: '"' :: '"' :: r => '\\' :: '"' :: '"' :: '"' :: escape r
  | c :: r => c :: escape r

/-- The blank characters at the start of a line, in bytes. -/
def indent (l : List Char) : Nat := byteCount (l.takeWhile isBlank)

/-- The smallest indent of the lines that are not blank. -/
def commonIndent : List (List Char) → Option Nat
  | [] => none
  | l :: ls =>
    if l.all isBlank then commonIndent ls
    else match commonIndent ls with
      | none => some (indent l)
      | some n => some (min (indent l) n)

/-- Drops characters that make up the first `n` bytes. -/
def dropBytes : Nat → List Char → List Char
  | 0, cs => cs
  | _ + 1, [] => []
  | n + 1, c :: r => dropBytes (n + 1 - c.utf8Size) r

/-- A line without the common indent; a shorter one stays as it is. -/
def outdent (n : Nat) (l : List Char) : List Char :=
  if n ≤ byteCount l then dropBytes n l else l

/-- Without the blank lines at both ends. -/
def trimBlankLines (ls : List (List Char)) : List (List Char) :=
  ((ls.dropWhile (·.all isBlank)).reverse.dropWhile (·.all isBlank)).reverse

/-- Every line but the first loses the indent that all of those have in common. -/
def dedent : List (List Char) → List (List Char)
  | [] => []
  | first :: rest =>
    match commonIndent rest with
    | none => first :: rest
    | some n => first :: rest.map (outdent n)

/-- Lines joined by line feeds. -/
def join : List (List Char) → List Char
  | [] => []
  | [l] => l
  | l :: ls => l ++ '\n' :: join ls

/-- The text that the inside of a block stands for. -/
def value (body : List Char) : List Char :=
  join ((trimBlankLines (dedent (lines body))).map unescape)

/-- The lines of a text set in a block, each indented by `margin` unless it is blank. -/
def setLines (margin : List Char) (cs : List Char) : List (List Char) :=
  (lines cs).map fun l => if l.all isBlank then [] else margin ++ escape l

end QueryTariff.BlockString
