/-!
Places in a text. Lines and columns count from one.
-/

namespace QueryTariff

structure Position where
  line : Nat
  column : Nat
deriving DecidableEq, Repr

namespace Position

def start : Position := ⟨1, 1⟩

def right (p : Position) (n : Nat) : Position := ⟨p.line, p.column + n⟩

def nextLine (p : Position) : Position := ⟨p.line + 1, 1⟩

/-- The place after the characters `cs` of a token: a line feed opens a line, all else takes one
column. -/
def advance (p : Position) (cs : List Char) : Position :=
  cs.foldl (fun q c => if c = '\n' then q.nextLine else q.right 1) p

/-- The usual `line:column` form. -/
def text (p : Position) : String := toString p.line ++ ":" ++ toString p.column

end Position

/-- The places of the two braces around a selection set. -/
structure Span where
  opening : Position
  closing : Position
deriving DecidableEq, Repr

end QueryTariff
