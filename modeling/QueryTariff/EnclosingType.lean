import QueryTariff.Schema
import QueryTariff.Log

/-!
The type that encloses a point of a query, found by going down from the operation to that point.
-/

namespace QueryTariff

/-- One node on the way down to a point of a query. -/
inductive Ancestor where
  | operation (kind : OperationKind)
  | field (name : String)
  | inlineFragment (on? : Option String)
deriving DecidableEq, Repr

namespace EnclosingType

/-- The type below a node, given the type above it. Below a field that its type does not define no
type is known any more. A condition that names an object, interface or union narrows a known type.
-/
def enter (S : Schema) (current? : Option NamedType) : Ancestor → Option NamedType
  | .operation kind => S.root? kind
  | .field name => do
    let current ← current?
    S.returnType? (← current.field? name)
  | .inlineFragment none => current?
  | .inlineFragment (some on) =>
    current?.map fun current => ((S.type? on).filter NamedType.isComposite).getD current

/-- A missing root type or field leaves a record. -/
def enterNotes (S : Schema) (current? : Option NamedType) : Ancestor → List Record
  | .operation kind =>
    if (S.root? kind).isSome then []
    else [⟨.debug, "Schema defines no root type for " ++ kind.text ++ " operations."⟩]
  | .field name =>
    match current? with
    | none => []
    | some current =>
      if (current.field? name).isSome then []
      else [⟨.debug, "Type `" ++ current.name ++ "` has no field named `" ++ name ++
        "`; the fields selected below it can\x27t be typed."⟩]
  | .inlineFragment _ => []

end EnclosingType

/-- The type at the end of a chain of nodes, the outermost first. -/
def enclosingType (S : Schema) (chain : List Ancestor) : Option NamedType :=
  chain.foldl (EnclosingType.enter S) none

/-- The records left on the way down a chain. -/
def enclosingTypeNotes (S : Schema) (chain : List Ancestor) : List Record :=
  go none chain
where
  go (current? : Option NamedType) : List Ancestor → List Record
    | [] => []
    | a :: rest =>
      EnclosingType.enterNotes S current? a ++ go (EnclosingType.enter S current? a) rest

/-- A node of a query with the chain from the operation down to it, itself included. -/
structure Node where
  label : String
  chain : List Ancestor

/-- How many nodes lie above, the operation among them. -/
def Node.depth (n : Node) : Nat := n.chain.length - 1

/-- All fields and inline fragments below the chain `above`, each before what it contains. -/
def nodesBelow (above : List Ancestor) : List Selection → List Node
  | [] => []
  | .field h _ items :: rest =>
    let chain := above ++ [.field h.name]
    ⟨h.name, chain⟩ :: (nodesBelow chain items ++ nodesBelow above rest)
  | .spread .. :: rest => nodesBelow above rest
  | .inlineFragment _ on? _ _ items :: rest =>
    let chain := above ++ [.inlineFragment on?]
    ⟨"...", chain⟩ :: (nodesBelow chain items ++ nodesBelow above rest)

/-- The operation itself and all nodes in it. -/
def Operation.nodes (o : Operation) : List Node :=
  let chain := [Ancestor.operation o.kind]
  ⟨"op", chain⟩ :: nodesBelow chain o.body.items

end QueryTariff
