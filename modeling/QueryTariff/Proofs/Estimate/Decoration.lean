import QueryTariff.Proofs.Estimate.Alike
import QueryTariff.Proofs.Estimate.Slice

/-!
What no estimate depends on. A document can be stripped of places in the text, aliases, directives,
parameters of operations and all arguments but the one that gives a field its page size; documents
with the same rest have the same estimate or fail for the same reason (`estimate_eq_of_bare_eq`).
-/

namespace QueryTariff

/-- A place that says nothing. -/
def Span.nowhere : Span := ⟨.start, .start⟩

/-- The name of a field and, of its arguments, the leftmost that bounds the number of items. -/
def FieldHead.bare (h : FieldHead) : FieldHead where
  position := .start
  alias? := none
  name := h.name
  arguments := (pageArgument? h.arguments).toList
  directives := []

def Selection.bare : List Selection → List Selection
  | [] => []
  | .field h _ items :: rest => .field h.bare .nowhere (bare items) :: bare rest
  | .spread _ n _ :: rest => .spread .start n [] :: bare rest
  | .inlineFragment _ on? _ _ items :: rest =>
    .inlineFragment .start on? [] .nowhere (bare items) :: bare rest

/-- The kind and the name of an operation. -/
def OperationHead.bare (h : OperationHead) : OperationHead where
  kind := h.kind
  position := .start
  name? := h.name?
  parameters := []
  directives := []

def Operation.bare (o : Operation) : Operation where
  head? := o.head?.map OperationHead.bare
  body := ⟨.nowhere, Selection.bare o.body.items⟩

def Fragment.bare (f : Fragment) : Fragment where
  position := .start
  name := f.name
  on := f.on
  directives := []
  body := ⟨.nowhere, Selection.bare f.body.items⟩

def Definition.bare : Definition → Definition
  | .operation o => .operation o.bare
  | .fragment f => .fragment f.bare

/-- The document without decoration. -/
def Document.bare (d : Document) : Document := ⟨d.definitions.map Definition.bare⟩

/-- The argument that was kept is the leftmost of its kind again. -/
theorem pageArgument?_toList (arguments : Arguments) :
    pageArgument? (pageArgument? arguments).toList = pageArgument? arguments := by
  cases h : pageArgument? arguments with
  | none => rfl
  | some a =>
    have ha := List.find?_some h
    simp [pageArgument?, ha]

theorem samePage_bare (V : Bindings) (h : FieldHead) : FieldHead.SamePage V V h h.bare where
  name := rfl
  pageSize := by
    have hargument : pageArgument? h.bare.arguments = pageArgument? h.arguments :=
      pageArgument?_toList h.arguments
    rw [pageSize, pageSize, hargument]

theorem Selection.alike_bare {R : FieldHead → FieldHead → Prop} (hR : ∀ h : FieldHead, R h h.bare)
    (items : List Selection) : Selection.Alike R items (Selection.bare items) := by
  induction items using Selection.listInduction with
  | nil =>
    rw [bare]
    exact .nil
  | field h sp items rest ihItems ihRest =>
    rw [bare]
    exact .field sp _ (hR h) ihItems ihRest
  | spread p n ds rest ih =>
    rw [bare]
    exact .spread p _ n ds _ ih
  | inlineFragment p on? ds sp items rest ihItems ihRest =>
    rw [bare]
    exact .inlineFragment p _ on? ds _ sp _ ihItems ihRest

theorem Operation.kind_bare (o : Operation) : o.bare.kind = o.kind := by
  rcases o with ⟨_ | head, body⟩ <;> rfl

theorem Operation.name?_bare (o : Operation) : o.bare.name? = o.name? := by
  rcases o with ⟨_ | head, body⟩ <;> rfl

theorem Document.alike_bare (V : Bindings) (d : Document) :
    d.Alike (FieldHead.SamePage V V) d.bare := by
  refine List.forall₂_map_right_iff.mpr (List.forall₂_same.mpr ?_)
  intro x _
  have hitems := Selection.alike_bare (samePage_bare V) x.body.items
  cases x with
  | operation o => exact .operation ⟨o.kind_bare, o.name?_bare, hitems⟩
  | fragment f => exact .fragment ⟨rfl, rfl, hitems⟩

namespace Estimator

theorem estimate_bare (E : Estimator) (d : Document) :
    (E.estimate d.bare).result = (E.estimate d).result :=
  estimate_of_alike E E.bindings (d.alike_bare E.bindings)

/-- Documents that differ in decoration alone have the same estimate, or fail for the same reason. -/
theorem estimate_eq_of_bare_eq (E : Estimator) (d d' : Document) (h : d.bare = d'.bare) :
    (E.estimate d).result = (E.estimate d').result := by
  rw [← E.estimate_bare d, h, E.estimate_bare d']

end Estimator

namespace Sample

/-- A page with an alias, a directive and further arguments, under an operation with a parameter; its
fragment is spread with a directive. -/
def decorated : Document where
  definitions := [
    .operation ⟨some ⟨.query, ⟨1, 1⟩, some "Pages", [⟨⟨1, 7⟩, "n", .named "Int", some (.int 3)⟩],
      [skip]⟩, span, [.field ⟨⟨2, 3⟩, some "people", "users",
        [("after", .string "x"), ("last", .var "n"), ("first", .int 500)], [skip]⟩ span
          [.spread ⟨3, 5⟩ "Inner" [skip]]]⟩,
    .fragment ⟨⟨5, 1⟩, "Inner", "Users", [skip], span, [.field ⟨⟨6, 3⟩, some "list", "edges", [],
      [skip]⟩ span []]⟩]
where
  skip : Directive := ⟨⟨9, 9⟩, "skip", [("if", .boolean true)]⟩

/-- The same without decoration. -/
def undecorated : Document where
  definitions := [
    namedQuery "Pages" [page "users" ("last", .var "n") [spread "Inner"]],
    fragment "Inner" "Users" [select "edges" []]]

/-- Whatever its alias, `edges` repeats what was counted; a directive leaves out nothing. -/
theorem estimate_decorated :
    decorated.bare = undecorated.bare ∧
    ((pageEstimator 10 7).estimate undecorated).result = .ok ⟨0, 10⟩ ∧
    ((pageEstimator 10 7).estimate decorated).result = .ok ⟨0, 10⟩ := by
  have hbare : decorated.bare = undecorated.bare := by cbv
  have h : ((pageEstimator 10 7).estimate undecorated).result = .ok ⟨0, 10⟩ := by cbv
  refine ⟨hbare, h, ?_⟩
  rw [Estimator.estimate_eq_of_bare_eq (pageEstimator 10 7) decorated undecorated hbare, h]

end Sample

end QueryTariff
