import QueryTariff.Token.Lexer

/-!
Parsers that read a row of tokens from left to right and never go back. A parser that cannot go on
fails at the place of the token it does not accept.
-/

namespace QueryTariff

/-- A parser takes tokens off a feed, or fails at a place. -/
abbrev Parser := StateT Feed (Except Position)

namespace Parser

variable {α : Type}

/-- Brackets nest this deep. -/
def maxNesting : Nat := 50

def failAt (p : Position) : Parser α := fun _ => .error p

def position : Parser Position := fun s => .ok (s.position, s)

/-- Fails at the next token. -/
def refuse : Parser α := fun s => .error s.position

/-- The next token, which stays. -/
def peek : Parser (Option Token) := fun s => .ok (s.next?, s)

/-- Takes the next token if `f` gives it a meaning. -/
def take (f : Token → Option α) : Parser α := fun s =>
  match s.uncons? with
  | none => .error s.stop
  | some (l, s) =>
    match f l.token with
    | some a => .ok (a, s)
    | none => .error l.position

/-- Takes one given token and tells its place. -/
def expect (t : Token) : Parser Position := do
  let p ← position
  take fun u => if u = t then some p else none

def name : Parser String := take fun
  | .name n => some n
  | _ => none

/-- Whether the next token is `t`, which then is taken. -/
def accept (t : Token) : Parser Bool := do
  if (← peek) = some t then
    let _ ← expect t
    return true
  return false

/-- Runs `p` as long as the next token passes the test. Every round takes at least one token; a
round that took none would be the last. -/
def whileNext (test : Option Token → Bool) (p : Parser α) (s : Feed) :
    Except Position (List α × Feed) :=
  if test s.next? then
    match p s with
    | .error e => .error e
    | .ok (a, s') =>
      if s'.size < s.size then
        match whileNext test p s' with
        | .error e => .error e
        | .ok (as, s'') => .ok (a :: as, s'')
      else .ok ([a], s')
  else .ok ([], s)
termination_by s.size

/-- Items that start with the token `t`, none or more. -/
def startingWith (t : Token) (p : Parser α) : Parser (List α) := whileNext (· == some t) p

/-- Items up to the token `t`, none or more, and the place of that token. -/
def manyUntil (t : Token) (p : Parser α) : Parser (List α × Position) := do
  let items ← whileNext (· != some t) p
  return (items, ← expect t)

/-- At least one item, then the token `t`. -/
def someUntil (t : Token) (p : Parser α) : Parser (List α × Position) := do
  let first ← p
  let (rest, stop) ← manyUntil t p
  return (first :: rest, stop)

/-- At least one item, the later ones each behind the token `sep`. -/
def separatedBy (sep : Token) (p : Parser α) : Parser (List α) := do
  let first ← p
  let rest ← startingWith sep (do let _ ← expect sep; p)
  return first :: rest

/-- Reads a whole text. -/
def run (p : Parser α) (text : String) : Except Position α :=
  match p (Lexer.feed text) with
  | .error e => .error e
  | .ok (a, s) => if s.ahead.isEmpty && s.complete then .ok a else .error s.position

end Parser

end QueryTariff
