import QueryTariff.Walk
import Mathlib.Algebra.BigOperators.Group.List.Basic

/-!
Fields where they stand. An occurrence is a field together with all that stands around it, so what
a walk keeps on stacks can be read off an occurrence without walking.
-/

namespace QueryTariff

/-- What a field may stand in, below its operation. -/
inductive Enclosure where
  | field (head : FieldHead)
  | inlineFragment (on? : Option String)

namespace Enclosure

def ancestor : Enclosure → Ancestor
  | field h => .field h.name
  | inlineFragment on? => .inlineFragment on?

def head? : Enclosure → Option FieldHead
  | field h => some h
  | inlineFragment _ => none

end Enclosure

/-- A field with what it stands in, the outermost first. -/
structure Occurrence where
  kind : OperationKind
  above : List Enclosure
  head : FieldHead

/-- The fields of a list of selections that stands in `above`, each before those below it. Spreads
are not followed. -/
def occurrencesBelow (kind : OperationKind) (above : List Enclosure) :
    List Selection → List Occurrence
  | [] => []
  | .field h _ items :: rest =>
    ⟨kind, above, h⟩ ::
      (occurrencesBelow kind (above ++ [.field h]) items ++ occurrencesBelow kind above rest)
  | .spread .. :: rest => occurrencesBelow kind above rest
  | .inlineFragment _ on? _ _ items :: rest =>
    occurrencesBelow kind (above ++ [.inlineFragment on?]) items ++
      occurrencesBelow kind above rest

theorem occurrencesBelow_append (kind : OperationKind) (above : List Enclosure)
    (xs ys : List Selection) :
    occurrencesBelow kind above (xs ++ ys) =
      occurrencesBelow kind above xs ++ occurrencesBelow kind above ys := by
  induction xs using Selection.listInduction with
  | nil => simp [occurrencesBelow]
  | field h sp items rest _ ih => simp [occurrencesBelow, ih]
  | spread p n ds rest ih => simp [occurrencesBelow, ih]
  | inlineFragment p on? ds sp items rest _ ih => simp [occurrencesBelow, ih]

def Operation.occurrences (o : Operation) : List Occurrence :=
  occurrencesBelow o.kind [] o.body.items

def occurrencesOf (os : List Operation) : List Occurrence := os.flatMap Operation.occurrences

def fieldsAround (above : List Enclosure) : List FieldHead := above.filterMap Enclosure.head?

/-- The product of the page sizes around a point, of whatever size. -/
def productAround (V : Bindings) (above : List Enclosure) : Nat :=
  ((fieldsAround above).filterMap fun h => pageSize V h.arguments).prod

def parentAround (V : Bindings) (above : List Enclosure) : Option ParentField :=
  (fieldsAround above).getLast?.map fun h => ⟨h, pageSize V h.arguments⟩

def chainTo (kind : OperationKind) (above : List Enclosure) : List Ancestor :=
  .operation kind :: above.map Enclosure.ancestor

namespace Occurrence

variable (S : Schema) (V : Bindings) (f : Occurrence)

def pageSize? : Option Nat := pageSize V f.head.arguments

def multiplier : Nat := productAround V f.above

def parent? : Option ParentField := parentAround V f.above

def enclosingType? : Option NamedType := enclosingType S (chainTo f.kind f.above)

def definition? : Option FieldDefinition := (f.enclosingType? S).bind (·.field? f.head.name)

def returnType? : Option NamedType := (f.definition? S).bind S.returnType?

/-- The type around the field is known and has no such field. -/
def isUndefined : Bool := (f.enclosingType? S).isSome && (f.definition? S).isNone

/-- What a score may depend on, told from where the field stands. -/
def visit (W : Walker) (f : Occurrence) : Visit where
  field := f.head
  multiplier := Saturating.clamp (f.multiplier W.bindings)
  pageSize? := f.pageSize? W.bindings
  parent? := f.parent? W.bindings
  returnType? := f.returnType? W.schema
  undefinedOnParent := f.isUndefined W.schema

end Occurrence

theorem fieldsAround_field (above : List Enclosure) (h : FieldHead) :
    fieldsAround (above ++ [.field h]) = fieldsAround above ++ [h] := by
  simp [fieldsAround, Enclosure.head?]

theorem fieldsAround_inlineFragment (above : List Enclosure) (on? : Option String) :
    fieldsAround (above ++ [.inlineFragment on?]) = fieldsAround above := by
  simp [fieldsAround, Enclosure.head?]

theorem productAround_field (V : Bindings) (above : List Enclosure) (h : FieldHead) :
    productAround V (above ++ [.field h]) =
      productAround V above * (pageSize V h.arguments).getD 1 := by
  cases hp : pageSize V h.arguments <;>
    simp [productAround, fieldsAround_field, List.filterMap_append, hp]

theorem productAround_inlineFragment (V : Bindings) (above : List Enclosure) (on? : Option String) :
    productAround V (above ++ [.inlineFragment on?]) = productAround V above := by
  simp [productAround, fieldsAround_inlineFragment]

theorem enclosingType_snoc (S : Schema) (kind : OperationKind) (above : List Enclosure)
    (x : Enclosure) :
    enclosingType S (chainTo kind (above ++ [x])) =
      EnclosingType.enter S (enclosingType S (chainTo kind above)) x.ancestor := by
  simp [enclosingType, chainTo, List.foldl_append]

end QueryTariff
