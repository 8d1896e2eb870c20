import QueryTariff.Document
import QueryTariff.Bindings

/-!
The page size of a field: how many items it asks for with `first` or `last`.
-/

namespace QueryTariff

/-- The arguments that bound the number of items. -/
def isPageArgument (name : String) : Bool := name = "first" || name = "last"

/-- The leftmost argument that bounds the number of items. -/
def pageArgument? (arguments : Arguments) : Option (String × Value) :=
  arguments.find? fun a => isPageArgument a.1

/-- A negative number is no size. -/
def natural? (n : Int) : Option Nat := if 0 ≤ n then some n.toNat else none

/-- The integer that a value stands for under the bindings. -/
def integer? (V : Bindings) : Value → Option Int
  | .int n => some n
  | .var x => V.get? x
  | _ => none

def pageSize (V : Bindings) (arguments : Arguments) : Option Nat := do
  let (_, v) ← pageArgument? arguments
  natural? (← integer? V v)

/-- A page argument whose variable is unbound leaves a record. -/
def pageSizeNotes (V : Bindings) (arguments : Arguments) : List Record :=
  match pageArgument? arguments with
  | some (a, .var x) =>
    if V.contains x then []
    else [⟨.debug, "Pagination argument `" ++ a ++ "` references unbound variable `$" ++ x ++
      "`; treating it as absent."⟩]
  | _ => []

/-- The arguments of all fields, each before those below it. Spreads are not followed. -/
def fieldHeads : List Selection → List FieldHead
  | [] => []
  | .field h _ items :: rest => h :: (fieldHeads items ++ fieldHeads rest)
  | .spread .. :: rest => fieldHeads rest
  | .inlineFragment _ _ _ _ items :: rest => fieldHeads items ++ fieldHeads rest

namespace Definition

def body : Definition → SelectionSet
  | .operation o => o.body
  | .fragment f => f.body

end Definition

/-- All fields of a document in the order of the text. -/
def Document.fieldHeads (d : Document) : List FieldHead :=
  d.definitions.flatMap fun x => QueryTariff.fieldHeads x.body.items

end QueryTariff
