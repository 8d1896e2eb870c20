import QueryTariff.Document.Parser
import QueryTariff.Expansion
import QueryTariff.Score

/-!
Estimates: both scores of a query document against a schema.
-/

namespace QueryTariff

structure Metrics where
  /-- The weighted cost in points. -/
  cost : Nat
  /-- The most objects that the query could bring about. -/
  maxNode : Nat
deriving DecidableEq, Repr

/-- Why there is no estimate. -/
inductive EstimateError where
  | expansion (e : ExpansionError)
  | nestingTooDeep (maxDepth : Nat)
  | unparsable (position : Position)
  | unknownOperation (name : String)
deriving DecidableEq, Repr

def EstimateError.message : EstimateError → String
  | expansion e => e.message
  | nestingTooDeep maxDepth =>
    "Selections are nested more than " ++ toString maxDepth ++ " selection sets deep"
  | unparsable p => "Failed to parse query document: " ++ Document.parseFault p
  | unknownOperation name => "The document defines no operation named `" ++ name ++ "`"

/-- Selection sets may lie this deep unless another bound is asked for. -/
def defaultMaxDepth : Nat := 256

/-- What an estimate goes by. -/
structure Estimator where
  schema : Schema
  bindings : Bindings := .empty
  weights : Weights := .empty
  operationName? : Option String := none
  maxDepth : Nat := defaultMaxDepth
  maxSelections : Nat := Expansion.defaultLimit

namespace Estimator

def walker (E : Estimator) : Walker := ⟨E.schema, E.bindings, E.maxDepth⟩

/-- The operations to score: all of them, or those of the name asked for, of which there must be
one. -/
def selectedOperations (E : Estimator) (d : Document) : Except EstimateError (List Operation) :=
  match E.operationName? with
  | none => .ok d.operations
  | some name =>
    match d.operations.filter (·.name? = some name) with
    | [] => .error (.unknownOperation name)
    | named => .ok named

def expand (E : Estimator) (d : Document) : Logged EstimateError Document :=
  .mapError .expansion (d.expand E.maxSelections)

/-- The total of a score over the selected operations of an expanded document. -/
def total (E : Estimator) (scorer : Scorer Nat) (d : Document) : Logged EstimateError Nat := do
  let os ← .silent (E.selectedOperations d)
  .mapError (fun e => .nestingTooDeep e.maxDepth) (E.walker.walkAll scorer 0 os)

def costOfExpanded (E : Estimator) (d : Document) : Logged EstimateError Nat := do
  return (← E.total (Score.cost E.weights) d) / Score.unitsPerPoint

def maxNodeOfExpanded (E : Estimator) (d : Document) : Logged EstimateError Nat :=
  E.total Score.maxNode d

/-- Both scores of a document. -/
def estimate (E : Estimator) (d : Document) : Logged EstimateError Metrics := do
  let d ← E.expand d
  return ⟨← E.costOfExpanded d, ← E.maxNodeOfExpanded d⟩

def parse (text : String) : Logged EstimateError Document :=
  .silent ((Document.parse text).mapError .unparsable)

/-- Both scores of a text. -/
def estimateText (E : Estimator) (text : String) : Logged EstimateError Metrics := do
  E.estimate (← parse text)

def cost (E : Estimator) (text : String) : Logged EstimateError Nat := do
  E.costOfExpanded (← E.expand (← parse text))

def maxNode (E : Estimator) (text : String) : Logged EstimateError Nat := do
  E.maxNodeOfExpanded (← E.expand (← parse text))

end Estimator

end QueryTariff
