import QueryTariff.Parser.Value
import QueryTariff.Declaration

/-!
Reading a schema text.
-/

namespace QueryTariff

namespace Parser

/-- A string before a declaration, if there is one. -/
def description? : Parser (Option String) := do
  match ← peek with
  | some (.quoted _) => some <$> string
  | some (.block _) => some <$> string
  | _ => return none

/-- A group that the token `opening` starts, if it comes next: at least one item up to `closing`. -/
def group? {α : Type} (opening closing : Char) (depth : Nat) (item : Nat → Parser α) :
    Parser (Option (List α)) := do
  if (← peek) = some (.punctuator opening) then
    match depth with
    | 0 => refuse
    | depth + 1 =>
      let _ ← expect (.punctuator opening)
      return some (← someUntil (.punctuator closing) (item depth)).1
  return none

/-- An argument of a field or directive, or a field of an input type; nothing of it is kept. -/
def inputValue (depth : Nat) : Parser Unit := do
  let _ ← description?
  let _ ← labelled (typeRef depth)
  if ← accept (.punctuator '=') then
    let _ ← value false depth
  let _ ← directives depth

def fieldDeclaration (depth : Nat) : Parser FieldDeclaration := do
  let position ← position
  let _ ← description?
  let n ← name
  let _ ← group? '(' ')' depth inputValue
  let _ ← expect (.punctuator ':')
  let t ← typeRef depth
  let _ ← directives depth
  return ⟨position, n, t⟩

def enumValue (depth : Nat) : Parser String := do
  let _ ← description?
  let n ← name
  let _ ← directives depth
  return n

/-- Names divided by `sep`, which may also stand before the first. -/
def nameList (sep : Char) : Parser (List String) := do
  let _ ← accept (.punctuator sep)
  separatedBy (.punctuator sep) name

/-- The interfaces of a type, or none. -/
def interfaces : Parser (List String) := do
  if ← accept (.name "implements") then nameList '&' else return []

/-- A type, and whether it says anything that an extension could add. -/
structure Stated where
  type : TypeDeclaration
  adds : Bool

/-- A type from the word for its kind on; `none` if that word names no kind. -/
def typeDeclaration? (keyword : String) : Option (Parser Stated) :=
  let head : Parser (Position × String) := do
    let p ← position
    let _ ← name
    return (p, ← name)
  let depth := maxNesting
  match keyword with
  | "scalar" => some do
    let (p, n) ← head
    let ds ← directives depth
    return ⟨⟨p, n, .scalar⟩, !ds.isEmpty⟩
  | "type" => some do
    let (p, n) ← head
    let is ← interfaces
    let ds ← directives depth
    let fs ← group? '{' '}' depth fieldDeclaration
    return ⟨⟨p, n, .object is (fs.getD [])⟩, !is.isEmpty || !ds.isEmpty || fs.isSome⟩
  | "interface" => some do
    let (p, n) ← head
    let is ← interfaces
    let ds ← directives depth
    let fs ← group? '{' '}' depth fieldDeclaration
    return ⟨⟨p, n, .interface is (fs.getD [])⟩, !ds.isEmpty || fs.isSome⟩
  | "union" => some do
    let (p, n) ← head
    let ds ← directives depth
    let ms ← if ← accept (.punctuator '=') then nameList '|' else pure []
    return ⟨⟨p, n, .union ms⟩, !ds.isEmpty || !ms.isEmpty⟩
  | "enum" => some do
    let (p, n) ← head
    let ds ← directives depth
    let vs ← group? '{' '}' depth enumValue
    return ⟨⟨p, n, .enum (vs.getD [])⟩, !ds.isEmpty || vs.isSome⟩
  | "input" => some do
    let (p, n) ← head
    let ds ← directives depth
    let fs ← group? '{' '}' depth inputValue
    return ⟨⟨p, n, .input⟩, !ds.isEmpty || fs.isSome⟩
  | _ => none

/-- The places where a directive may stand. -/
def directiveLocations : List String :=
  ["QUERY", "MUTATION", "SUBSCRIPTION", "FIELD", "FRAGMENT_DEFINITION", "FRAGMENT_SPREAD",
    "INLINE_FRAGMENT", "SCHEMA", "SCALAR", "OBJECT", "FIELD_DEFINITION", "ARGUMENT_DEFINITION",
    "INTERFACE", "UNION", "ENUM", "ENUM_VALUE", "INPUT_OBJECT", "INPUT_FIELD_DEFINITION",
    "VARIABLE_DEFINITION"]

def directiveLocation : Parser String := take fun
  | .name n => if n ∈ directiveLocations then some n else none
  | _ => none

def directiveDeclaration : Parser Declaration := do
  let _ ← expect (.name "directive")
  let _ ← expect (.punctuator '@')
  let n ← name
  let _ ← group? '(' ')' maxNesting inputValue
  let _ ← accept (.name "repeatable")
  let _ ← expect (.name "on")
  match ← peek with
  | some (.punctuator '|') =>
    let _ ← expect (.punctuator '|')
    let _ ← separatedBy (.punctuator '|') directiveLocation
  | some (.name _) =>
    let _ ← separatedBy (.punctuator '|') directiveLocation
  | _ => pure ()
  return .directive n

/-- The root types that a block's entries bind, if each of them binds another known kind. -/
def rootsOf? : List (String × String) → Option (ByKind (Option String))
  | [] => some .none
  | (key, type) :: rest => do
    let kind ← OperationKind.ofText? key
    let roots ← rootsOf? rest
    if (roots.get kind).isSome then none else some (roots.set (some type) kind)

/-- A block of root types. A wrong key in it is noticed at its end and reported at its start. -/
def rootDeclaration : Parser Declaration := do
  let p ← expect (.name "schema")
  let _ ← directives maxNesting
  let _ ← expect (.punctuator '{')
  let entries ← manyUntil (.punctuator '}') (labelled name)
  match rootsOf? entries.1 with
  | some types => return .roots ⟨p, types⟩
  | none => failAt p

/-- An extension, which must add something. -/
def extension : Parser Declaration := do
  let _ ← expect (.name "extend")
  let p ← position
  match ← peek with
  | some (.name keyword) =>
    match typeDeclaration? keyword with
    | some parser =>
      let s ← parser
      if s.adds then return .extension s.type else failAt p
    | none => refuse
  | _ => refuse

/-- A type or directive behind its description. -/
def described : Parser Declaration := do
  let _ ← description?
  match ← peek with
  | some (.name "directive") => directiveDeclaration
  | some (.name keyword) =>
    match typeDeclaration? keyword with
    | some parser => return .type (← parser).type
    | none => refuse
  | _ => refuse

def declaration : Parser Declaration := do
  match ← peek with
  | some (.name "schema") => rootDeclaration
  | some (.name "extend") => extension
  | _ => described

end Parser

namespace Declaration

/-- Reads a text of one declaration or more, or tells where it goes wrong. -/
def parse (text : String) : Except Position (List Declaration) :=
  Parser.run (do
    let first ← Parser.declaration
    let rest ← Parser.whileNext Option.isSome Parser.declaration
    return first :: rest) text

/-- How a text that is no schema is reported. -/
def parseFault (p : Position) : String := "schema parse error: Parse error at " ++ p.text

end Declaration

end QueryTariff
