import QueryTariff.Walk
import QueryTariff.Weights

/-!
The two scores. The cost counts pages, and the items on them where their type has a weight; the
other score counts the objects that a query could bring about if every page came back full.
-/

namespace QueryTariff.Score

open Saturating

/-- Units of cost that make one point. -/
def unitsPerPoint : Nat := 100

/-- The units that a field costs. Only a field with a page size costs anything, unless the type
around it is known and has no such field. -/
def fieldCost? (w : Weights) (v : Visit) : Option Nat :=
  match v.pageSize? with
  | none => none
  | some p =>
    if v.undefinedOnParent then none
    else
      let weight := (v.returnType?.map fun t => w.weight t.name).getD 0
      if weight = 0 then some v.multiplier
      else some (add v.multiplier (mul (mul weight p) v.multiplier))

/-- Whether a field without a page size repeats objects that were counted before: `edges` below a
field with a page size, and `node` below `edges`. -/
def isConnectionWrapper (v : Visit) : Bool :=
  match v.parent? with
  | none => false
  | some parent =>
    if v.field.name = "edges" then parent.pageSize?.isSome
    else v.field.name = "node" && parent.name = "edges"

/-- The objects that a field adds; only fields of an object type add any. -/
def fieldNodes? (v : Visit) : Option Nat :=
  if (v.returnType?.map NamedType.isObject).getD false then
    match v.pageSize? with
    | some p => some (mul p v.multiplier)
    | none => if isConnectionWrapper v then some 0 else some v.multiplier
  else none

/-- A total that grows by what `amount?` gives. -/
def accumulate (amount? : Visit → Option Nat) (v : Visit) (total : Nat) : Nat :=
  match amount? v with
  | some n => add total n
  | none => total

/-- A record of the amount, if there is one. -/
def amountNotes (amount? : Visit → Option Nat) (verb unit : String) (v : Visit) : List Record :=
  match amount? v with
  | some n =>
    [⟨.trace, "Field `" ++ v.field.name ++ "` " ++ verb ++ " " ++ toString n ++ " " ++ unit ++ "."⟩]
  | none => []

def cost (w : Weights) : Scorer Nat where
  score := accumulate (fieldCost? w)
  notes := amountNotes (fieldCost? w) "costs" "units"

def maxNode : Scorer Nat where
  score := accumulate fieldNodes?
  notes := amountNotes fieldNodes? "adds" "nodes"

end QueryTariff.Score
