import QueryTariff.Parser.Value

/-!
Reading a query document.
-/

namespace QueryTariff

namespace Parser

/-- A field; `nested` reads the selections below it. -/
def field (depth : Nat) (nested : Parser SelectionSet) : Parser Selection := do
  let position ← position
  let first ← name
  let second? ← if ← accept (.punctuator ':') then some <$> name else pure none
  let arguments ← arguments depth
  let directives ← directives depth
  let head : FieldHead := match second? with
    | some n => ⟨position, some first, n, arguments, directives⟩
    | none => ⟨position, none, first, arguments, directives⟩
  if (← peek) = some (.punctuator '{') then
    let body ← nested
    return .field head body.span body.items
  return .field head ⟨position, position⟩ []

/-- What follows three dots: a type condition, the name of a fragment, or neither. -/
def afterEllipsis (depth : Nat) (nested : Parser SelectionSet) : Parser Selection := do
  let position ← position
  match ← peek with
  | some (.name "on") =>
    let _ ← name
    let on ← name
    let directives ← directives depth
    let body ← nested
    return .inlineFragment position (some on) directives body.span body.items
  | some (.name _) =>
    let n ← name
    return .spread position n (← directives depth)
  | _ =>
    let directives ← directives depth
    let body ← nested
    return .inlineFragment position none directives body.span body.items

def selection (depth : Nat) (nested : Parser SelectionSet) : Parser Selection := do
  if ← accept .ellipsis then afterEllipsis depth nested else field depth nested

/-- Braces with at least one selection between them. -/
def selectionSet : Nat → Parser SelectionSet
  | 0 => refuse
  | depth + 1 => do
    let opening ← expect (.punctuator '{')
    let (items, closing) ← someUntil (.punctuator '}') (selection depth (selectionSet depth))
    return ⟨⟨opening, closing⟩, items⟩

def variableDefinition (depth : Nat) : Parser VariableDefinition := do
  let (p, n) ← variableName
  let _ ← expect (.punctuator ':')
  let t ← typeRef depth
  let default? ← if ← accept (.punctuator '=') then some <$> value false depth else pure none
  return ⟨p, n, t, default?⟩

/-- Variable definitions in parentheses, or none. -/
def variableDefinitions (depth : Nat) : Parser (List VariableDefinition) := do
  if (← peek) = some (.punctuator '(') then
    match depth with
    | 0 => refuse
    | depth + 1 =>
      let _ ← expect (.punctuator '(')
      return (← someUntil (.punctuator ')') (variableDefinition depth)).1
  return []

/-- An operation that starts with the word for its kind. -/
def operation (kind : OperationKind) : Parser Operation := do
  let position ← position
  let _ ← name
  let name? ← match ← peek with
    | some (.name _) => some <$> name
    | _ => pure none
  let parameters ← variableDefinitions maxNesting
  let directives ← directives maxNesting
  return ⟨some ⟨kind, position, name?, parameters, directives⟩, ← selectionSet maxNesting⟩

def fragment : Parser Fragment := do
  let position ← position
  let _ ← expect (.name "fragment")
  let n ← name
  let _ ← expect (.name "on")
  let on ← name
  let directives ← directives maxNesting
  return ⟨position, n, on, directives, ← selectionSet maxNesting⟩

def definition : Parser Definition := do
  match ← peek with
  | some (.punctuator '{') => return .operation ⟨none, ← selectionSet maxNesting⟩
  | some (.name "fragment") => return .fragment (← fragment)
  | some (.name w) =>
    match OperationKind.ofText? w with
    | some kind => return .operation (← operation kind)
    | none => refuse
  | _ => refuse

end Parser

namespace Document

/-- Reads a document of one definition or more, or tells where it goes wrong. -/
def parse (text : String) : Except Position Document :=
  Parser.run (do
    let first ← Parser.definition
    let rest ← Parser.whileNext Option.isSome Parser.definition
    return ⟨first :: rest⟩) text

/-- How a text that is no document is reported. -/
def parseFault (p : Position) : String := "query parse error: Parse error at " ++ p.text

end Document

end QueryTariff
