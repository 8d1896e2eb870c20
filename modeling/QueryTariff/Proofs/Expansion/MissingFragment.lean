import QueryTariff.Proofs.Expansion.Success

/-!
Fragments taken away. Without the fragments of one name the spreads of that name stay, so what was
expanded becomes what it was but for inline fragments that give way to spreads
(`expand_withoutFragment`).
-/

namespace QueryTariff

open Selection

/-- The same selections, but that some inline fragments give way to spreads. -/
inductive Selection.Pruned : List Selection → List Selection → Prop
  | nil : Pruned [] []
  | field (h : FieldHead) (sp : Span) {body body' rest rest' : List Selection} :
    Pruned body body' → Pruned rest rest' →
    Pruned (.field h sp body :: rest) (.field h sp body' :: rest')
  | inlineFragment (p : Position) (on? : Option String) (ds : List Directive) (sp : Span)
    {body body' rest rest' : List Selection} :
    Pruned body body' → Pruned rest rest' →
    Pruned (.inlineFragment p on? ds sp body :: rest) (.inlineFragment p on? ds sp body' :: rest')
  | spread (p : Position) (n : String) (ds : List Directive) {rest rest' : List Selection} :
    Pruned rest rest' → Pruned (.spread p n ds :: rest) (.spread p n ds :: rest')
  | cut (p : Position) (on? : Option String) (n : String) (ds : List Directive) (sp : Span)
    (body : List Selection) {rest rest' : List Selection} :
    Pruned rest rest' → Pruned (.inlineFragment p on? ds sp body :: rest) (.spread p n ds :: rest')

structure Operation.Pruned (o o' : Operation) : Prop where
  head? : o'.head? = o.head?
  items : Selection.Pruned o.body.items o'.body.items

structure Fragment.Pruned (f f' : Fragment) : Prop where
  name : f'.name = f.name
  items : Selection.Pruned f.body.items f'.body.items

abbrev Definition.Pruned : Definition → Definition → Prop :=
  Definition.Corresponds Operation.Pruned Fragment.Pruned

theorem Selection.Pruned.count_le {items items' : List Selection}
    (h : Selection.Pruned items items') : Selection.count items' ≤ Selection.count items := by
  induction h with
  | nil => exact Nat.le_refl _
  | field _ _ _ _ ihBody ihRest =>
    rw [Selection.count, Selection.count]
    omega
  | inlineFragment _ _ _ _ _ _ ihBody ihRest =>
    rw [Selection.count, Selection.count]
    omega
  | spread _ _ _ _ ih =>
    rw [Selection.count, Selection.count]
    omega
  | cut _ _ _ _ _ _ _ ih =>
    rw [Selection.count, Selection.count]
    omega

namespace Definition

theorem Pruned.items {x y : Definition} (h : Definition.Pruned x y) :
    Selection.Pruned x.body.items y.body.items := by
  cases h with
  | operation h => exact h.items
  | fragment h => exact h.items

theorem pruned_withItems (x : Definition) {items items' : List Selection}
    (h : Selection.Pruned items items') :
    Definition.Pruned (x.withItems items) (x.withItems items') := by
  cases x with
  | operation o => exact .operation ⟨rfl, h⟩
  | fragment f => exact .fragment ⟨rfl, h⟩

theorem selectionCount_le_of_pruned {xs ys : List Definition}
    (h : List.Forall₂ Definition.Pruned xs ys) : selectionCount ys ≤ selectionCount xs :=
  selectionCount_le_of_forall₂ (fun _ _ hxy => hxy.items.count_le) h

/-- The definition is no fragment of the name. -/
def isNotFragment (name : String) : Definition → Bool
  | .operation _ => true
  | .fragment f => f.name ≠ name

end Definition

namespace Document

/-- The document without the fragments of one name. -/
def withoutFragment (name : String) (d : Document) : Document :=
  ⟨d.definitions.filter (Definition.isNotFragment name)⟩

variable {d o : Document} {name : String} {limit : Nat}

theorem operations_withoutFragment (d : Document) (name : String) :
    (d.withoutFragment name).operations = d.operations := by
  rw [withoutFragment, operations_filter]
  simp [Definition.isNotFragment]

theorem fragment?_withoutFragment (d : Document) (name n : String) :
    (d.withoutFragment name).fragment? n = if n = name then none else d.fragment? n := by
  rw [withoutFragment, d.fragment?_filter _ (fun m => m ≠ name) (fun _ => rfl) n]
  simp

theorem reaches_of_withoutFragment {items : List Selection} {n : String}
    (h : (d.withoutFragment name).Reaches items n) : d.Reaches items n := by
  refine h.mono ?_
  intro m f hf
  rw [fragment?_withoutFragment] at hf
  split_ifs at hf
  exact hf

/-- Where selections can be expanded they can be so with fewer fragments. -/
theorem itemsExpand_withoutFragment (name : String) {items out : List Selection}
    (h : d.ItemsExpand items out) :
    ∃ out', (d.withoutFragment name).ItemsExpand items out' ∧ Selection.Pruned out out' := by
  induction h with
  | nil => exact ⟨[], .nil, .nil⟩
  | field head sp _ _ ihBody ihRest =>
    obtain ⟨body', hbody, hprunedBody⟩ := ihBody
    obtain ⟨rest', hrest, hprunedRest⟩ := ihRest
    exact ⟨_, .field head sp hbody hrest, .field head sp hprunedBody hprunedRest⟩
  | inlineFragment p on? ds sp _ _ ihBody ihRest =>
    obtain ⟨body', hbody, hprunedBody⟩ := ihBody
    obtain ⟨rest', hrest, hprunedRest⟩ := ihRest
    exact ⟨_, .inlineFragment p on? ds sp hbody hrest,
      .inlineFragment p on? ds sp hprunedBody hprunedRest⟩
  | @undefined p n ds _ _ hnone _ ihRest =>
    obtain ⟨rest', hrest, hpruned⟩ := ihRest
    have hnone' : (d.withoutFragment name).fragment? n = none := by
      rw [fragment?_withoutFragment, hnone, ite_self]
    exact ⟨_, .undefined p ds hnone' hrest, .spread p n ds hpruned⟩
  | @spread p n ds f _ _ _ hf _ _ ihBody ihRest =>
    obtain ⟨body', hbody, hprunedBody⟩ := ihBody
    obtain ⟨rest', hrest, hprunedRest⟩ := ihRest
    by_cases hn : n = name
    · have hnone : (d.withoutFragment name).fragment? n = none := by
        rw [fragment?_withoutFragment, if_pos hn]
      exact ⟨_, .undefined p ds hnone hrest, .cut p _ n ds _ _ hprunedRest⟩
    · have hf' : (d.withoutFragment name).fragment? n = some f := by
        rw [fragment?_withoutFragment, if_neg hn, hf]
      exact ⟨_, .spread p ds hf' hbody hrest, .inlineFragment p _ ds _ hprunedBody hprunedRest⟩

theorem definitionExpands_withoutFragment (name : String) {x y : Definition}
    (h : d.DefinitionExpands x y) :
    ∃ y', (d.withoutFragment name).DefinitionExpands x y' ∧ Definition.Pruned y y' := by
  obtain ⟨items, hitems, rfl⟩ := definitionExpands_iff.mp h
  obtain ⟨items', hitems', hpruned⟩ := itemsExpand_withoutFragment name hitems
  exact ⟨_, definitionExpands_iff.mpr ⟨items', hitems', rfl⟩, x.pruned_withItems hpruned⟩

theorem forall₂_withoutFragment (name : String) {xs ys : List Definition}
    (h : List.Forall₂ d.DefinitionExpands xs ys) :
    ∃ zs, List.Forall₂ (d.withoutFragment name).DefinitionExpands xs zs ∧
      List.Forall₂ Definition.Pruned ys zs := by
  induction h with
  | nil => exact ⟨[], .nil, .nil⟩
  | cons hxy _ ih =>
    obtain ⟨z, hz, hyz⟩ := definitionExpands_withoutFragment name hxy
    obtain ⟨zs, hzs, hyzs⟩ := ih
    exact ⟨z :: zs, .cons hz hzs, .cons hyz hyzs⟩

/-- What can be expanded can be expanded without the fragments of one name, under the same limit,
and its operations are pruned by it. -/
theorem expand_withoutFragment (name : String) (h : (d.expand limit).result = .ok o) :
    ∃ o', ((d.withoutFragment name).expand limit).result = .ok o' ∧
      List.Forall₂ Operation.Pruned o.operations o'.operations := by
  obtain ⟨hfull, hlimit, hself⟩ := (expand_eq_ok_iff d o limit).mp h
  obtain ⟨zs, hzs, hpruned⟩ := forall₂_withoutFragment name hfull
  have hoperations : List.Forall₂ Operation.Pruned o.operations (⟨zs⟩ : Document).operations :=
    Corresponds.operations (d := o) hpruned
  refine ⟨(⟨zs⟩ : Document).withoutFragment name, ?_, ?_⟩
  · rw [expand_eq_ok_iff]
    refine ⟨?_, ?_, ?_⟩
    · refine List.rel_filter (fun x z hxz => ?_) hzs
      obtain ⟨items, -, rfl⟩ := definitionExpands_iff.mp hxz
      cases x <;> rfl
    · have hfilter : Definition.selectionCount (zs.filter (Definition.isNotFragment name)) ≤
          Definition.selectionCount zs := Definition.selectionCount_le_of_sublist List.filter_sublist
      have hcount := Definition.selectionCount_le_of_pruned hpruned
      exact Nat.le_trans hfilter (Nat.le_trans hcount hlimit)
    · intro x hx n hn hreaches
      exact hself x (List.mem_filter.mp hx).1 n hn (reaches_of_withoutFragment hreaches)
  · rw [operations_withoutFragment]
    exact hoperations

end Document

end QueryTariff
