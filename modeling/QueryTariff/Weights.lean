import QueryTariff.Json.Parser

/-!
Weights of types whose resolvers cost more than a page of plain objects.
-/

namespace QueryTariff

/-- Weights by the name of the type. -/
abbrev Weights := NameMap Nat

namespace Weights

/-- The weight of a type, nothing unless one is given. -/
def weight (w : Weights) (type : String) : Nat := (w.get? type).getD 0

/-- The table that a JSON object of whole numbers gives. Every member counts towards being one, also
one that a later member of the same name replaces. -/
def ofJson? : Json → Option Weights
  | .object ms => (ms.mapM fun m => (Json.toUnsigned? m.2).map (m.1, ·)).map NameMap.ofList
  | _ => none

def parse? (text : String) : Option Weights := Json.parse? text >>= ofJson?

@[simp] theorem weight_empty (type : String) : weight .empty type = 0 := rfl

end Weights

end QueryTariff
