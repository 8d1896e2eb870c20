import QueryTariff.Number.Double
import QueryTariff.NameMap

/-!
JSON values. The members of an object stand as they were written, repeats included.
-/

namespace QueryTariff

/-- A JSON value. A number written as a whole number of 64 bits, signed or not, is an `integer`; any
other number, minus zero among them, is a `float`. -/
inductive Json where
  | null
  | bool (b : Bool)
  | integer (n : Int)
  | float (x : Double)
  | string (s : String)
  | array (items : List Json)
  | object (members : List (String × Json))
deriving Repr

namespace Json

/-- The members of an object by name; the last one written of a name counts. -/
def members : Json → NameMap Json
  | object ms => NameMap.ofList ms
  | _ => .empty

def member? (j : Json) (name : String) : Option Json := j.members.get? name

/-- A signed integer of 64 bits. -/
def toSigned? : Json → Option Int
  | integer n => if n ≤ 0x7FFFFFFFFFFFFFFF then some n else none
  | _ => none

/-- An unsigned integer of 64 bits. -/
def toUnsigned? : Json → Option Nat
  | integer n => if 0 ≤ n then some n.toNat else none
  | _ => none

def toString? : Json → Option String
  | string s => some s
  | _ => none

def toArray? : Json → Option (List Json)
  | array items => some items
  | _ => none

def isObject : Json → Bool
  | object _ => true
  | _ => false

end Json

end QueryTariff
