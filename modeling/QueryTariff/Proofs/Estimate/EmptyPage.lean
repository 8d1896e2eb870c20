import QueryTariff.Proofs.Estimate.Monotone
import QueryTariff.Proofs.Expansion.Correspondence

/-!
Empty pages. Nothing is selected on a page without items, so the multiplier below it is zero
(`multiplier_eq_zero_of_mem_occurrencesBelow`), however large the one above it. What is selected
there may give way to anything else, and both scores stay as they are (`estimate_of_refilled`).
-/

namespace QueryTariff

/-- The lists differ at most in what is selected below fields whose page is empty. -/
inductive Selection.Refilled (V : Bindings) : List Selection → List Selection → Prop
  | nil : Refilled V [] []
  | field (h : FieldHead) (sp sp' : Span) {body body' rest rest' : List Selection} :
    Refilled V body body' → Refilled V rest rest' →
    Refilled V (.field h sp body :: rest) (.field h sp' body' :: rest')
  | emptyPage {h : FieldHead} (sp sp' : Span) (body body' : List Selection)
    {rest rest' : List Selection} : pageSize V h.arguments = some 0 → Refilled V rest rest' →
    Refilled V (.field h sp body :: rest) (.field h sp' body' :: rest')
  | spread (p : Position) (n : String) (ds : List Directive) {rest rest' : List Selection} :
    Refilled V rest rest' → Refilled V (.spread p n ds :: rest) (.spread p n ds :: rest')
  | inlineFragment (p : Position) (on? : Option String) (ds : List Directive) (sp : Span)
    {body body' rest rest' : List Selection} : Refilled V body body' → Refilled V rest rest' →
    Refilled V (.inlineFragment p on? ds sp body :: rest)
      (.inlineFragment p on? ds sp body' :: rest')

structure Operation.Refilled (V : Bindings) (o o' : Operation) : Prop where
  head? : o'.head? = o.head?
  items : Selection.Refilled V o.body.items o'.body.items

structure Fragment.Refilled (V : Bindings) (f f' : Fragment) : Prop where
  name : f'.name = f.name
  on : f'.on = f.on
  span : f'.body.span = f.body.span
  items : Selection.Refilled V f.body.items f'.body.items

/-- The documents differ at most in what is selected below fields whose page is empty. -/
abbrev Document.Refilled (V : Bindings) : Document → Document → Prop :=
  Document.Corresponds (Operation.Refilled V) (Fragment.Refilled V)

theorem Selection.refilled_refl (V : Bindings) (items : List Selection) :
    Selection.Refilled V items items := by
  induction items using Selection.listInduction with
  | nil => exact .nil
  | field h sp items rest ihItems ihRest => exact .field h sp sp ihItems ihRest
  | spread p n ds rest ih => exact .spread p n ds ih
  | inlineFragment p on? ds sp items rest ihItems ihRest =>
    exact .inlineFragment p on? ds sp ihItems ihRest

/-! ### Below an empty page -/

theorem multiplier_eq_zero_of_mem_occurrencesBelow {V : Bindings} {kind : OperationKind}
    {above : List Enclosure} {items : List Selection} {f : Occurrence}
    (hzero : productAround V above = 0) (hf : f ∈ occurrencesBelow kind above items) :
    f.multiplier V = 0 := by
  -- A zero stays when more factors follow, and all that is below stands in `above` first.
  induction items using Selection.listInduction generalizing above with
  | nil =>
    rw [occurrencesBelow] at hf
    cases hf
  | field h sp items rest ihItems ihRest =>
    rw [occurrencesBelow, List.mem_cons, List.mem_append] at hf
    rcases hf with rfl | hf | hf
    · exact hzero
    · refine ihItems ?_ hf
      rw [productAround_field, hzero, Nat.zero_mul]
    · exact ihRest hzero hf
  | spread p n ds rest ih =>
    rw [occurrencesBelow] at hf
    exact ih hzero hf
  | inlineFragment p on? ds sp items rest ihItems ihRest =>
    rw [occurrencesBelow, List.mem_append] at hf
    rcases hf with hf | hf
    · refine ihItems ?_ hf
      rw [productAround_inlineFragment, hzero]
    · exact ihRest hzero hf

theorem productAround_emptyPage {V : Bindings} {h : FieldHead} (above : List Enclosure)
    (hp : pageSize V h.arguments = some 0) : productAround V (above ++ [.field h]) = 0 := by
  rw [productAround_field, hp, Option.getD_some, Nat.mul_zero]

namespace Occurrence

variable {V : Bindings} {f : Occurrence}

theorem units_of_multiplier_eq_zero (hf : f.multiplier V = 0) (S : Schema) (w : Weights) :
    f.units S V w = 0 := by
  rw [units, hf]
  cases f.pageSize? V with
  | none => rfl
  | some p => simp

theorem objects_of_multiplier_eq_zero (hf : f.multiplier V = 0) (S : Schema) :
    f.objects S V = 0 := by
  rw [objects, hf]
  cases f.pageSize? V with
  | none => simp
  | some p => simp

end Occurrence

/-! ### Expansions -/

section
variable {V : Bindings} {d d' : Document} {items items' out out' : List Selection}

theorem itemsExpand_of_refilled (hd : d.Refilled V d') (h : d.ItemsExpand items out)
    (h' : d'.ItemsExpand items' out') (hitems : Selection.Refilled V items items') :
    Selection.Refilled V out out' := by
  have hname (f f' : Fragment) (hf : f.Refilled V f') : f'.name = f.name := hf.name
  induction h generalizing items' out' with
  | nil =>
    cases hitems
    cases h'
    exact .nil
  | field head sp _ _ ihBody ihRest =>
    cases hitems with
    | field _ _ sp' hbody hrest =>
      cases h' with
      | field _ _ hbody' hrest' =>
        exact .field head sp sp' (ihBody hbody' hbody) (ihRest hrest' hrest)
    | emptyPage _ sp' _ _ hp hrest =>
      cases h' with
      | field _ _ _ hrest' => exact .emptyPage sp sp' _ _ hp (ihRest hrest' hrest)
  | inlineFragment p on? ds sp _ _ ihBody ihRest =>
    cases hitems with
    | inlineFragment _ _ _ _ hbody hrest =>
      cases h' with
      | inlineFragment _ _ _ _ hbody' hrest' =>
        exact .inlineFragment p on? ds sp (ihBody hbody' hbody) (ihRest hrest' hrest)
  | undefined p ds hnone _ ihRest =>
    cases hitems with
    | spread _ _ _ hrest =>
      cases h' with
      | undefined _ _ _ hrest' => exact .spread p _ ds (ihRest hrest' hrest)
      | spread _ _ hf _ _ =>
        rw [hd.fragment?_of_none hname hnone] at hf
        cases hf
  | spread p ds hf _ _ ihBody ihRest =>
    -- A name stands for fragments that differ, if at all, below empty pages.
    obtain ⟨f', hf', hff'⟩ := hd.fragment?_of_some hname hf
    cases hitems with
    | spread _ _ _ hrest =>
      cases h' with
      | undefined _ _ hnone _ =>
        rw [hf'] at hnone
        cases hnone
      | spread _ _ hg hbody' hrest' =>
        rw [hf'] at hg
        cases hg
        rw [hff'.on, hff'.span]
        exact .inlineFragment p _ ds _ (ihBody hbody' hff'.items) (ihRest hrest' hrest)

theorem operations_of_refilled (hd : d.Refilled V d') {xs xs' ys ys' : List Definition}
    (hxs : List.Forall₂ (Definition.Corresponds (Operation.Refilled V) (Fragment.Refilled V))
      xs xs')
    (h : List.Forall₂ d.DefinitionExpands xs ys) (h' : List.Forall₂ d'.DefinitionExpands xs' ys') :
    List.Forall₂ (Operation.Refilled V) (Document.operations ⟨ys⟩) (Document.operations ⟨ys'⟩) := by
  induction hxs generalizing ys ys' with
  | nil =>
    cases h
    cases h'
    exact .nil
  | cons hx _ ih =>
    obtain _ | ⟨hy, hys⟩ := h
    obtain _ | ⟨hy', hys'⟩ := h'
    have hrest := ih hys hys'
    cases hx with
    | operation ho =>
      cases hy with
      | operation _ hitems =>
        cases hy' with
        | operation _ hitems' =>
          exact .cons ⟨ho.head?, itemsExpand_of_refilled hd hitems hitems' ho.items⟩ hrest
    | fragment _ =>
      cases hy
      cases hy'
      exact hrest

end

/-! ### Sums over fields -/

section
variable {V : Bindings} {amount : Occurrence → Nat}
  (hamount : ∀ f : Occurrence, f.multiplier V = 0 → amount f = 0)

include hamount

theorem sum_below_emptyPage (kind : OperationKind) (above : List Enclosure) {h : FieldHead}
    (hp : pageSize V h.arguments = some 0) (items : List Selection) :
    ((occurrencesBelow kind (above ++ [.field h]) items).map amount).sum = 0 := by
  refine List.sum_eq_zero fun n hn => ?_
  obtain ⟨f, hf, rfl⟩ := List.mem_map.mp hn
  exact hamount f (multiplier_eq_zero_of_mem_occurrencesBelow (productAround_emptyPage above hp) hf)

/-- Amounts that vanish with the multiplier add up to the same. -/
theorem sum_occurrencesBelow_of_refilled (kind : OperationKind) {items items' : List Selection}
    (hitems : Selection.Refilled V items items') (above : List Enclosure) :
    ((occurrencesBelow kind above items').map amount).sum =
      ((occurrencesBelow kind above items).map amount).sum := by
  induction hitems generalizing above with
  | nil => rfl
  | field h sp sp' _ _ ihBody ihRest =>
    rw [occurrencesBelow, occurrencesBelow]
    simp only [List.map_cons, List.map_append, List.sum_cons, List.sum_append, ihBody, ihRest]
  | emptyPage sp sp' body body' hp _ ihRest =>
    have hsilent := sum_below_emptyPage hamount kind above hp
    rw [occurrencesBelow, occurrencesBelow]
    simp only [List.map_cons, List.map_append, List.sum_cons, List.sum_append, hsilent, ihRest]
  | spread p n ds _ ih =>
    rw [occurrencesBelow, occurrencesBelow]
    exact ih above
  | inlineFragment p on? ds sp _ _ ihBody ihRest =>
    rw [occurrencesBelow, occurrencesBelow]
    simp only [List.map_append, List.sum_append, ihBody, ihRest]

theorem sum_occurrencesOf_of_refilled {os os' : List Operation}
    (h : List.Forall₂ (Operation.Refilled V) os os') :
    ((occurrencesOf os').map amount).sum = ((occurrencesOf os).map amount).sum := by
  induction h with
  | nil => rfl
  | @cons o o' _ _ ho _ ih =>
    have hsum := sum_occurrencesBelow_of_refilled hamount o.kind ho.items []
    simp only [occurrencesOf, List.flatMap_cons, List.map_append, List.sum_append] at ih ⊢
    rw [ih, Operation.occurrences, Operation.occurrences, Operation.kind_congr ho.head?, hsum]

end

/-! ### Estimates -/

namespace Estimator

theorem metrics_of_refilled (E : Estimator) {os os' : List Operation}
    (h : List.Forall₂ (Operation.Refilled E.bindings) os os') : E.metrics os' = E.metrics os := by
  have hunits : E.units os' = E.units os := sum_occurrencesOf_of_refilled
    (fun f hf => f.units_of_multiplier_eq_zero hf E.schema E.weights) h
  have hobjects : E.objects os' = E.objects os := sum_occurrencesOf_of_refilled
    (fun f hf => f.objects_of_multiplier_eq_zero hf E.schema) h
  rw [metrics, metrics, hunits, hobjects]

theorem scoredOperations_of_refilled {E : Estimator} {d d' : Document} {os os' : List Operation}
    (hd : d.Refilled E.bindings d') (h : E.scoredOperations d = .ok os)
    (h' : E.scoredOperations d' = .ok os') :
    List.Forall₂ (Operation.Refilled E.bindings) os os' := by
  obtain ⟨o, ho, hos, -⟩ := scoredOperations_eq_ok_iff.mp h
  obtain ⟨o', ho', hos', -⟩ := scoredOperations_eq_ok_iff.mp h'
  have hoperations := operations_of_refilled hd hd (Document.fullExpansion_of_expand ho)
    (Document.fullExpansion_of_expand ho')
  have hname (p p' : Operation) (hp : p.Refilled E.bindings p') : p'.name? = p.name? :=
    Operation.name?_congr hp.head?
  rcases E.selectedOperations_of_forall₂ hname hoperations with
    ⟨ps, ps', hps, hps', hforall⟩ | ⟨e, he, -⟩
  · rw [hos] at hps
    rw [hos'] at hps'
    cases hps
    cases hps'
    exact hforall
  · rw [hos] at he
    cases he

/-- What is selected below an empty page counts for nothing. Put other selections in its place,
below as many such fields as there are: if both documents have estimates, the estimates are one. -/
theorem estimate_of_refilled (E : Estimator) (d d' : Document) (m m' : Metrics)
    (hd : d.Refilled E.bindings d') (h : (E.estimate d).result = .ok m)
    (h' : (E.estimate d').result = .ok m') : m'.cost = m.cost ∧ m'.maxNode = m.maxNode := by
  obtain ⟨os, hos, rfl⟩ := estimate_eq_ok_iff.mp h
  obtain ⟨os', hos', rfl⟩ := estimate_eq_ok_iff.mp h'
  rw [E.metrics_of_refilled (scoredOperations_of_refilled hd hos hos')]
  exact ⟨rfl, rfl⟩

end Estimator

namespace Sample

/-- Two pages in each other whose product is beyond 64 bits. Below them lies an empty page of a
field that is not defined, so it costs nothing itself. -/
def emptyPage (items : List Selection) : Document where
  definitions := [
    query [page "users" ("first", .int 0x100000000) [select "edges" [select "node"
      [page "users" ("first", .var "n") [select "edges" [select "node"
        [page "lost" ("last", .int 0) items]]]]]]],
    fragment "Inner" "User" [page "users" ("first", .int 9) [select "edges" []]]]

def refill : List Selection :=
  [into "User" [page "users" ("first", .int 3) []], select "edges" [select "node" [spread "Inner"]]]

theorem refilled_emptyPage (V : Bindings) : (emptyPage []).Refilled V (emptyPage refill) := by
  have hempty : Selection.Refilled V [page "lost" ("last", .int 0) []]
      [page "lost" ("last", .int 0) refill] := .emptyPage _ _ _ _ rfl .nil
  have hinner : Selection.Refilled V
      [page "users" ("first", .var "n") [select "edges" [select "node"
        [page "lost" ("last", .int 0) []]]]]
      [page "users" ("first", .var "n") [select "edges" [select "node"
        [page "lost" ("last", .int 0) refill]]]] :=
    .field _ _ _ (.field _ _ _ (.field _ _ _ hempty .nil) .nil) .nil
  refine .cons (.operation ⟨rfl, ?_⟩)
    (.cons (.fragment ⟨rfl, rfl, rfl, Selection.refilled_refl V _⟩) .nil)
  exact .field _ _ _ (.field _ _ _ (.field _ _ _ hinner .nil) .nil) .nil

/-- The multiplier above the empty page has come to its limit, the cost has not. -/
theorem estimate_emptyPage_refill :
    (emptyPage []).Refilled (pageEstimator 0x100000001 0).bindings (emptyPage refill) ∧
    ((pageEstimator 0x100000001 0).estimate (emptyPage [])).result =
      .ok ⟨42949672, 18446744073709551615⟩ ∧
    ∃ m, ((pageEstimator 0x100000001 0).estimate (emptyPage refill)).result = .ok m ∧
      m.cost = 42949672 ∧ m.maxNode = 18446744073709551615 := by
  have hd := refilled_emptyPage (pageEstimator 0x100000001 0).bindings
  have h : ((pageEstimator 0x100000001 0).estimate (emptyPage [])).result =
      .ok ⟨42949672, 18446744073709551615⟩ := by cbv
  have h' : ((pageEstimator 0x100000001 0).estimate (emptyPage refill)).result =
      .ok ⟨42949672, 18446744073709551615⟩ := by cbv
  exact ⟨hd, h, _, h', Estimator.estimate_of_refilled _ _ _ _ _ hd h h'⟩

end Sample

end QueryTariff
