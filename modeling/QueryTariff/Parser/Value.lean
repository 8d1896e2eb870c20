import QueryTariff.Parser
import QueryTariff.Document

/-!
Values, types and directives, which queries and schemas write alike.

The number that these parsers take first is how many more brackets may be opened.
-/

namespace QueryTariff.Parser

/-- Puts a member in the place of its name, over one of the same name. -/
def insertMember (name : String) (v : Value) : List (String × Value) → List (String × Value)
  | [] => [(name, v)]
  | (n, w) :: r =>
    if name < n then (name, v) :: (n, w) :: r
    else if name = n then (name, v) :: r
    else (n, w) :: insertMember name v r

/-- Members by name; of several with one name the last one counts. -/
def sortMembers (members : List (String × Value)) : List (String × Value) :=
  members.foldl (fun sorted m => insertMember m.1 m.2 sorted) []

def valueOfName (n : String) : Value :=
  if n = "true" then .boolean true
  else if n = "false" then .boolean false
  else if n = "null" then .null
  else .enum n

/-- The value of a literal that is one token. -/
def literal? : Token → Option Value
  | .name n => some (valueOfName n)
  | .integer cs => (Token.integerValue cs).map .int
  | .decimal cs => (Token.decimalValue cs).map .float
  | .quoted cs => (Token.quotedValue cs).map fun s => .string (String.ofList s)
  | .block cs => some (.string (String.ofList (BlockString.value cs)))
  | _ => none

/-- A string or block string. -/
def string : Parser String := take fun
  | .quoted cs => (Token.quotedValue cs).map String.ofList
  | .block cs => some (String.ofList (BlockString.value cs))
  | _ => none

/-- A dollar sign, its place, and the name behind it. -/
def variableName : Parser (Position × String) := do
  let p ← expect (.punctuator '$')
  return (p, ← name)

/-- A name, a colon and what follows. -/
def labelled {α : Type} (p : Parser α) : Parser (String × α) := do
  let n ← name
  let _ ← expect (.punctuator ':')
  return (n, ← p)

/-- A value; `withVariables` tells whether variables may stand in it. -/
def value (withVariables : Bool) : Nat → Parser Value
  | 0 => atom
  | depth + 1 => do
    match ← peek with
    | some (.punctuator '[') =>
      let _ ← expect (.punctuator '[')
      return .list (← manyUntil (.punctuator ']') (value withVariables depth)).1
    | some (.punctuator '{') =>
      let _ ← expect (.punctuator '{')
      let members ← manyUntil (.punctuator '}') (labelled (value withVariables depth))
      return .object (sortMembers members.1)
    | _ => atom
where
  /-- A value without brackets. -/
  atom : Parser Value := do
    if withVariables && (← peek) = some (.punctuator '$') then
      return .var (← variableName).2
    take literal?

/-- A type: a name or a type in brackets, with an exclamation mark or without. -/
def typeRef : Nat → Parser TypeRef
  | 0 => do nullability (.named (← name))
  | depth + 1 => do
    if ← accept (.punctuator '[') then
      let inner ← typeRef depth
      let _ ← expect (.punctuator ']')
      nullability (.list inner)
    else
      nullability (.named (← name))
where
  nullability (t : TypeRef) : Parser TypeRef := do
    return if ← accept (.punctuator '!') then .nonNull t else t

/-- Arguments in parentheses, or none. -/
def arguments (depth : Nat) : Parser Arguments := do
  if (← peek) = some (.punctuator '(') then
    match depth with
    | 0 => refuse
    | depth + 1 =>
      let _ ← expect (.punctuator '(')
      return (← someUntil (.punctuator ')') (labelled (value true depth))).1
  return []

def directive (depth : Nat) : Parser Directive := do
  let p ← expect (.punctuator '@')
  let n ← name
  return ⟨p, n, ← arguments depth⟩

def directives (depth : Nat) : Parser (List Directive) :=
  startingWith (.punctuator '@') (directive depth)

end QueryTariff.Parser
