import QueryTariff.Token

/-!
A text as a row of tokens with their places. The row ends where the text does or where no token can
be read.
-/

namespace QueryTariff

structure Lexeme where
  token : Token
  position : Position
deriving DecidableEq, Repr

/-- Tokens still to come and how many they are, the place behind them, and whether that place is the
end of the text. -/
structure Feed where
  ahead : List Lexeme
  size : Nat
  stop : Position
  complete : Bool
  size_eq : size = ahead.length

namespace Feed

/-- The place of the next token, or of what follows the last one. -/
def position (s : Feed) : Position :=
  match s.ahead with
  | [] => s.stop
  | l :: _ => l.position

def next? (s : Feed) : Option Token := s.ahead.head?.map Lexeme.token

def empty (stop : Position) (complete : Bool) : Feed := ⟨[], 0, stop, complete, rfl⟩

def cons (l : Lexeme) (s : Feed) : Feed where
  ahead := l :: s.ahead
  size := s.size + 1
  stop := s.stop
  complete := s.complete
  size_eq := by rw [s.size_eq, List.length_cons]

/-- The next token, and the feed without it. -/
def uncons? (s : Feed) : Option (Lexeme × Feed) :=
  match h : s.ahead with
  | [] => none
  | l :: r => some (l, ⟨r, s.size - 1, s.stop, s.complete, by rw [s.size_eq, h]; rfl⟩)

end Feed

namespace Lexer

/-- Passes over blanks, commas and comments. A tab takes eight columns, a carriage return and a byte
order mark none, and a comment ends its line with the first carriage return or line feed. -/
def skip : (comment : Bool) → List Char → Position → List Char × Position
  | _, [], p => ([], p)
  | true, c :: r, p => if c == '\n' || c == '\r' then skip false r p.nextLine else skip true r p
  | false, c :: r, p =>
    if c == ' ' || c == ',' then skip false r (p.right 1)
    else if c == '\t' then skip false r (p.right 8)
    else if c == '\n' then skip false r p.nextLine
    else if c == '\r' || c == '\ufeff' then skip false r p
    else if c == '#' then skip true r p
    else (c :: r, p)

theorem length_skip_le (comment : Bool) (cs : List Char) (p : Position) :
    (skip comment cs p).1.length ≤ cs.length := by
  fun_induction skip comment cs p <;> simp_all <;> omega

/-- Reads all tokens from the place `p` on. -/
def feedFrom (cs : List Char) (p : Position) : Feed :=
  match _h : skip false cs p with
  | ([], q) => .empty q true
  | (c :: r, q) =>
    match Token.read? c r with
    | none => .empty q false
    | some (t, n) => .cons ⟨t, q⟩ (feedFrom (r.drop n) (q.advance (c :: r.take n)))
termination_by cs.length
decreasing_by
  have := length_skip_le false cs p
  simp [_h] at this ⊢
  omega

def feed (text : String) : Feed := feedFrom text.toList Position.start

end Lexer

end QueryTariff
