import QueryTariff.Text.Position
import QueryTariff.Number.Double

/-!
Query documents: operations, fragments and the selections in them, each with its place in the text.

Selections nest in lists of selections. `Selection.listInduction` is the way to reason about such
lists: it goes down into fields and inline fragments and along the list at once.
-/

namespace QueryTariff

/-- A literal or a variable. The members of an object are in the order of their names. -/
inductive Value where
  | var (name : String)
  | int (n : Int)
  | float (x : Double)
  | string (s : String)
  | boolean (b : Bool)
  | null
  | enum (name : String)
  | list (items : List Value)
  | object (members : List (String × Value))
deriving Repr

namespace Value

mutual

/-- Whether two values are the same. -/
def same : Value → Value → Bool
  | var a, var b => a = b
  | int a, int b => a = b
  | float a, float b => a = b
  | string a, string b => a = b
  | boolean a, boolean b => a = b
  | null, null => true
  | enum a, enum b => a = b
  | list a, list b => sameItems a b
  | object a, object b => sameMembers a b
  | _, _ => false

def sameItems : List Value → List Value → Bool
  | [], [] => true
  | a :: as, b :: bs => same a b && sameItems as bs
  | _, _ => false

def sameMembers : List (String × Value) → List (String × Value) → Bool
  | [], [] => true
  | (m, a) :: as, (n, b) :: bs => m = n && same a b && sameMembers as bs
  | _, _ => false

end

mutual

theorem same_iff : ∀ a b : Value, same a b = true ↔ a = b
  | var _, b => by cases b <;> simp [same]
  | int _, b => by cases b <;> simp [same]
  | float _, b => by cases b <;> simp [same]
  | string _, b => by cases b <;> simp [same]
  | boolean _, b => by cases b <;> simp [same]
  | null, b => by cases b <;> simp [same]
  | enum _, b => by cases b <;> simp [same]
  | list a, b => by cases b <;> simp [same, sameItems_iff a]
  | object a, b => by cases b <;> simp [same, sameMembers_iff a]

theorem sameItems_iff : ∀ a b : List Value, sameItems a b = true ↔ a = b
  | [], b => by cases b <;> simp [sameItems]
  | x :: xs, b => by cases b <;> simp [sameItems, same_iff x, sameItems_iff xs]

theorem sameMembers_iff : ∀ a b : List (String × Value), sameMembers a b = true ↔ a = b
  | [], b => by cases b <;> simp [sameMembers]
  | (m, x) :: xs, b => by
    rcases b with _ | ⟨⟨n, y⟩, ys⟩ <;> simp [sameMembers, same_iff x, sameMembers_iff xs]

end

instance : DecidableEq Value := fun a b => decidable_of_iff _ (same_iff a b)

end Value

/-- Arguments as written: names and values, from left to right. -/
abbrev Arguments := List (String × Value)

structure Directive where
  position : Position
  name : String
  arguments : Arguments
deriving DecidableEq, Repr

/-- A field apart from what is selected below it. -/
structure FieldHead where
  position : Position
  alias? : Option String
  name : String
  arguments : Arguments
  directives : List Directive
deriving DecidableEq, Repr

inductive Selection where
  /-- A field; one without braces has no items and both ends of its span at its own place. -/
  | field (head : FieldHead) (span : Span) (items : List Selection)
  | spread (position : Position) (name : String) (directives : List Directive)
  | inlineFragment (position : Position) (on? : Option String) (directives : List Directive)
      (span : Span) (items : List Selection)
deriving Repr

namespace Selection

/-- Induction over a list of selections, into every field and inline fragment of it. -/
theorem listInduction {P : List Selection → Prop} (nil : P [])
    (field : ∀ h sp items rest, P items → P rest → P (.field h sp items :: rest))
    (spread : ∀ p n ds rest, P rest → P (.spread p n ds :: rest))
    (inlineFragment : ∀ p on? ds sp items rest, P items → P rest →
      P (.inlineFragment p on? ds sp items :: rest)) :
    ∀ items, P items
  | [] => nil
  | .field h sp items :: rest =>
    field h sp items rest (listInduction nil field spread inlineFragment items)
      (listInduction nil field spread inlineFragment rest)
  | .spread p n ds :: rest =>
    spread p n ds rest (listInduction nil field spread inlineFragment rest)
  | .inlineFragment p on? ds sp items :: rest =>
    inlineFragment p on? ds sp items rest (listInduction nil field spread inlineFragment items)
      (listInduction nil field spread inlineFragment rest)

mutual

/-- Whether two selections are the same. -/
def same : Selection → Selection → Bool
  | field h sp items, field h' sp' items' => h = h' && sp = sp' && sameItems items items'
  | spread p n ds, spread p' n' ds' => p = p' && n = n' && ds = ds'
  | inlineFragment p on? ds sp items, inlineFragment p' on?' ds' sp' items' =>
    p = p' && on? = on?' && ds = ds' && sp = sp' && sameItems items items'
  | _, _ => false

def sameItems : List Selection → List Selection → Bool
  | [], [] => true
  | a :: as, b :: bs => same a b && sameItems as bs
  | _, _ => false

end

theorem sameItems_iff (a b : List Selection) : sameItems a b = true ↔ a = b := by
  induction a using listInduction generalizing b with
  | nil => cases b <;> simp [sameItems]
  | field h sp items rest ihItems ihRest =>
    rcases b with _ | ⟨_ | _ | _, _⟩ <;> simp [sameItems, same, ihItems, ihRest, and_assoc]
  | spread p n ds rest ih =>
    rcases b with _ | ⟨_ | _ | _, _⟩ <;> simp [sameItems, same, ih, and_assoc]
  | inlineFragment p on? ds sp items rest ihItems ihRest =>
    rcases b with _ | ⟨_ | _ | _, _⟩ <;> simp [sameItems, same, ihItems, ihRest, and_assoc]

instance : DecidableEq Selection := fun a b =>
  decidable_of_iff (sameItems [a] [b] = true) (by simp [sameItems_iff])

/-- How many selections there are, at all depths. -/
def count : List Selection → Nat
  | [] => 0
  | .field _ _ items :: rest => 1 + count items + count rest
  | .spread .. :: rest => 1 + count rest
  | .inlineFragment _ _ _ _ items :: rest => 1 + count items + count rest

theorem count_append (xs ys : List Selection) : count (xs ++ ys) = count xs + count ys := by
  induction xs using listInduction with
  | nil => simp [count]
  | field h sp items rest _ ih => simp [count, ih, Nat.add_assoc]
  | spread p n ds rest ih => simp [count, ih, Nat.add_assoc]
  | inlineFragment p on? ds sp items rest _ ih => simp [count, ih, Nat.add_assoc]

end Selection

/-- Selections between braces. -/
structure SelectionSet where
  span : Span
  items : List Selection
deriving DecidableEq, Repr

/-- A type as it is written. -/
inductive TypeRef where
  | named (name : String)
  | list (inner : TypeRef)
  | nonNull (inner : TypeRef)
deriving DecidableEq, Repr

namespace TypeRef

def text : TypeRef → String
  | named n => n
  | list t => "[" ++ t.text ++ "]"
  | nonNull t => t.text ++ "!"

end TypeRef

structure VariableDefinition where
  position : Position
  name : String
  type : TypeRef
  default? : Option Value
deriving DecidableEq, Repr

/-- The kind of an operation decides the type its selections start from. -/
inductive OperationKind where
  | query
  | mutation
  | subscription
deriving DecidableEq, Repr

namespace OperationKind

def text : OperationKind → String
  | query => "query"
  | mutation => "mutation"
  | subscription => "subscription"

/-- The root type of a schema that binds none. -/
def defaultRoot : OperationKind → String
  | query => "Query"
  | mutation => "Mutation"
  | subscription => "Subscription"

def ofText? : String → Option OperationKind
  | "query" => some query
  | "mutation" => some mutation
  | "subscription" => some subscription
  | _ => none

end OperationKind

/-- What stands before the braces of an operation. -/
structure OperationHead where
  kind : OperationKind
  position : Position
  name? : Option String
  parameters : List VariableDefinition
  directives : List Directive
deriving DecidableEq, Repr

/-- An operation; braces without a head are a query. -/
structure Operation where
  head? : Option OperationHead
  body : SelectionSet
deriving DecidableEq, Repr

namespace Operation

def kind (o : Operation) : OperationKind := (o.head?.map OperationHead.kind).getD .query

def name? (o : Operation) : Option String := o.head?.bind OperationHead.name?

theorem kind_congr {o o' : Operation} (h : o'.head? = o.head?) : o'.kind = o.kind := by
  rw [kind, kind, h]

theorem name?_congr {o o' : Operation} (h : o'.head? = o.head?) : o'.name? = o.name? := by
  rw [name?, name?, h]

end Operation

structure Fragment where
  position : Position
  name : String
  on : String
  directives : List Directive
  body : SelectionSet
deriving DecidableEq, Repr

inductive Definition where
  | operation (o : Operation)
  | fragment (f : Fragment)
deriving DecidableEq, Repr

structure Document where
  definitions : List Definition
deriving DecidableEq, Repr

namespace Document

def operations (d : Document) : List Operation :=
  d.definitions.filterMap fun
    | .operation o => some o
    | .fragment _ => none

def fragments (d : Document) : List Fragment :=
  d.definitions.filterMap fun
    | .operation _ => none
    | .fragment f => some f

end Document

end QueryTariff
