import QueryTariff.Proofs.Estimate.Outcome

/-!
Schemas that say less. Where one schema has the types of another and only fields that the other has
too (`Schema.Within`), a type found in it is found in the other as well (`enclosingType_within`). So
it gives no field more objects, and no more units of cost unless only the other schema knows that a
field is not defined (`objects_le_of_within`, `units_le_of_within`). Two schemas each of which says
no more than the other give one estimate (`estimate_of_within`).
-/

namespace QueryTariff

namespace NamedType

/-- A type of the same name and kind that has these fields too, each giving the same named type. -/
structure Within (t t' : NamedType) : Prop where
  name : t'.name = t.name
  kind : t'.kind = t.kind
  field? : ∀ {n f}, t.field? n = some f →
    ∃ f', t'.field? n = some f' ∧ f'.annotation.innermost.name = f.annotation.innermost.name

theorem isObject_eq (t : NamedType) : t.isObject = decide (t.kind = .object) := by cases t <;> rfl

theorem isComposite_eq (t : NamedType) :
    t.isComposite = decide (t.kind = .object ∨ t.kind = .interface ∨ t.kind = .union) := by
  cases t <;> rfl

theorem Within.isObject {t t' : NamedType} (h : t.Within t') : t'.isObject = t.isObject := by
  rw [isObject_eq, isObject_eq, h.kind]

theorem Within.isComposite {t t' : NamedType} (h : t.Within t') :
    t'.isComposite = t.isComposite := by
  simp only [isComposite_eq, h.kind]

/-- A type that is known on the left is known on the right, with at least its fields. -/
def KnownWithin (t? t?' : Option NamedType) : Prop := ∀ t ∈ t?, ∃ t' ∈ t?', t.Within t'

theorem KnownWithin.ofRel {t? t?' : Option NamedType} (h : Option.Rel Within t? t?') :
    KnownWithin t? t?' := by
  intro t ht
  cases h with
  | none => cases ht
  | some hwithin =>
    cases ht
    exact ⟨_, rfl, hwithin⟩

end NamedType

/-- The schema has the types and root types of another, and only fields that the other has. -/
structure Schema.Within (S S' : Schema) : Prop where
  rootName? : ∀ kind, S'.rootName? kind = S.rootName? kind
  type? : ∀ name, Option.Rel NamedType.Within (S.type? name) (S'.type? name)

open NamedType

namespace Schema.Within

variable {S S' : Schema} {t? t?' : Option NamedType}

theorem root? (hS : S.Within S') (kind : OperationKind) :
    KnownWithin (S.root? kind) (S'.root? kind) := by
  rw [Schema.root?, Schema.root?, hS.rootName? kind]
  cases S.rootName? kind with
  | none =>
    intro t ht
    cases ht
  | some name => exact .ofRel (hS.type? name)

theorem returnType? (hS : S.Within S') {f f' : FieldDefinition}
    (hf : f'.annotation.innermost.name = f.annotation.innermost.name) :
    KnownWithin (S.returnType? f) (S'.returnType? f') := by
  rw [Schema.returnType?, Schema.returnType?, hf]
  exact .ofRel (hS.type? _)

theorem narrowed (hS : S.Within S') (on : String) {t t' : NamedType} (h : t.Within t') :
    (((S.type? on).filter isComposite).getD t).Within
      (((S'.type? on).filter isComposite).getD t') := by
  have hon := hS.type? on
  generalize S.type? on = c? at hon ⊢
  generalize S'.type? on = c?' at hon ⊢
  cases hon with
  | none => exact h
  | @some c c' hc =>
    rw [Option.filter_some, Option.filter_some, hc.isComposite]
    split_ifs
    · exact hc
    · exact h

/-- Going down one node keeps it so: a type that gets lost gets lost on the left. -/
theorem enter (hS : S.Within S') (h : KnownWithin t? t?') (a : Ancestor) :
    KnownWithin (EnclosingType.enter S t? a) (EnclosingType.enter S' t?' a) := by
  cases a with
  | operation kind => exact hS.root? kind
  | field name =>
    intro u hu
    obtain ⟨t, ht, hu⟩ := Option.bind_eq_some_iff.mp hu
    obtain ⟨f, hf, hu⟩ := Option.bind_eq_some_iff.mp hu
    obtain ⟨t', ht', hwithin⟩ := h t ht
    obtain ⟨f', hf', hname⟩ := hwithin.field? hf
    obtain ⟨u', hu', hwithin⟩ := hS.returnType? hname u hu
    refine ⟨u', ?_, hwithin⟩
    exact Option.bind_eq_some_iff.mpr ⟨t', ht', Option.bind_eq_some_iff.mpr ⟨f', hf', hu'⟩⟩
  | inlineFragment on? =>
    cases on? with
    | none => exact h
    | some on =>
      intro u hu
      obtain ⟨t, ht, rfl⟩ := Option.map_eq_some_iff.mp hu
      obtain ⟨t', ht', hwithin⟩ := h t ht
      exact ⟨_, Option.map_eq_some_iff.mpr ⟨t', ht', rfl⟩, hS.narrowed on hwithin⟩

theorem foldl_enter (hS : S.Within S') (chain : List Ancestor) (h : KnownWithin t? t?') :
    KnownWithin (chain.foldl (EnclosingType.enter S) t?)
      (chain.foldl (EnclosingType.enter S') t?') := by
  induction chain generalizing t? t?' with
  | nil => exact h
  | cons a chain ih => exact ih (hS.enter h a)

end Schema.Within

theorem enclosingType_within {S S' : Schema} (hS : S.Within S') (chain : List Ancestor) :
    KnownWithin (enclosingType S chain) (enclosingType S' chain) :=
  hS.foldl_enter chain nofun

namespace Occurrence

variable {S S' : Schema}

theorem definition?_within (hS : S.Within S') (f : Occurrence) {x : FieldDefinition}
    (hx : f.definition? S = some x) :
    ∃ x', f.definition? S' = some x' ∧
      x'.annotation.innermost.name = x.annotation.innermost.name := by
  obtain ⟨t, ht, hx⟩ := Option.bind_eq_some_iff.mp hx
  obtain ⟨t', ht', hwithin⟩ := enclosingType_within hS _ t ht
  obtain ⟨x', hx', hname⟩ := hwithin.field? hx
  exact ⟨x', Option.bind_eq_some_iff.mpr ⟨t', ht', hx'⟩, hname⟩

theorem returnType?_within (hS : S.Within S') (f : Occurrence) :
    KnownWithin (f.returnType? S) (f.returnType? S') := by
  intro u hu
  obtain ⟨x, hx, hu⟩ := Option.bind_eq_some_iff.mp hu
  obtain ⟨x', hx', hname⟩ := f.definition?_within hS hx
  obtain ⟨u', hu', hwithin⟩ := hS.returnType? hname u hu
  exact ⟨u', Option.bind_eq_some_iff.mpr ⟨x', hx', hu'⟩, hwithin⟩

theorem objects_le_of_within (hS : S.Within S') (V : Bindings) (f : Occurrence) :
    f.objects S V ≤ f.objects S' V := by
  rw [objects, objects]
  cases hu : f.returnType? S with
  | none => exact Nat.zero_le _
  | some u =>
    obtain ⟨u', hu', hwithin⟩ := f.returnType?_within hS u hu
    rw [Option.mem_def.mp hu', Option.any_some, Option.any_some, hwithin.isObject]

theorem weight_le_of_within (hS : S.Within S') (w : Weights) (f : Occurrence) :
    f.weight S w ≤ f.weight S' w := by
  rw [weight, weight]
  cases hu : f.returnType? S with
  | none => exact Nat.zero_le _
  | some u =>
    obtain ⟨u', hu', hwithin⟩ := f.returnType?_within hS u hu
    rw [Option.mem_def.mp hu', Option.map_some, Option.map_some, hwithin.name]

/-- A field that costs nothing for want of a definition may cost something where the type around it
is not known either, so such a field must be undefined on both sides. -/
theorem units_le_of_within (hS : S.Within S') (V : Bindings) (w : Weights) (f : Occurrence)
    (hundefined : f.isUndefined S' = true → f.isUndefined S = true) :
    f.units S V w ≤ f.units S' V w := by
  rw [units, units]
  cases f.pageSize? V with
  | none => exact Nat.le_refl 0
  | some p =>
    have hweight := f.weight_le_of_within hS w
    have hpage : f.weight S w * p * f.multiplier V ≤ f.weight S' w * p * f.multiplier V :=
      Nat.mul_le_mul_right _ (Nat.mul_le_mul_right _ hweight)
    dsimp only
    split_ifs with hf hf' hf'
    · exact Nat.le_refl 0
    · exact Nat.zero_le _
    · exact absurd (hundefined hf') hf
    · exact Nat.add_le_add_left hpage _

theorem isUndefined_of_within (hS : S.Within S') (hS' : S'.Within S) (f : Occurrence)
    (h : f.isUndefined S' = true) : f.isUndefined S = true := by
  rw [isUndefined, Bool.and_eq_true, Option.isSome_iff_exists, Option.isNone_iff_eq_none] at h ⊢
  obtain ⟨⟨t', ht'⟩, hnone⟩ := h
  obtain ⟨t, ht, -⟩ := enclosingType_within hS' _ t' ht'
  refine ⟨⟨t, ht⟩, ?_⟩
  cases hx : f.definition? S with
  | none => rfl
  | some x =>
    obtain ⟨x', hx', -⟩ := f.definition?_within hS hx
    rw [hnone] at hx'
    cases hx'

end Occurrence

namespace Estimator

theorem objects_le_of_within (E : Estimator) {S : Schema} (hS : S.Within E.schema)
    (os : List Operation) : { E with schema := S }.objects os ≤ E.objects os := by
  apply List.sum_le_sum
  intro f _
  exact f.objects_le_of_within hS E.bindings

theorem units_le_of_within (E : Estimator) {S : Schema} (hS : S.Within E.schema)
    (os : List Operation)
    (hundefined : ∀ f ∈ occurrencesOf os, f.isUndefined E.schema = true → f.isUndefined S = true) :
    { E with schema := S }.units os ≤ E.units os := by
  apply List.sum_le_sum
  intro f hf
  exact f.units_le_of_within hS E.bindings E.weights (hundefined f hf)

/-- Which operations are scored, or why none are, does not depend on the schema. -/
theorem estimate_withSchema (E : Estimator) (S : Schema) (d : Document) :
    ({ E with schema := S }.estimate d).result =
      (E.scoredOperations d).map { E with schema := S }.metrics :=
  estimate_result { E with schema := S } d

/-- Two schemas that say the same give one estimate. -/
theorem estimate_of_within (E : Estimator) {S : Schema} (hS : S.Within E.schema)
    (hS' : E.schema.Within S) (d : Document) :
    ({ E with schema := S }.estimate d).result = (E.estimate d).result := by
  have hmetrics : { E with schema := S }.metrics = E.metrics := by
    funext os
    have hobjects := Nat.le_antisymm (E.objects_le_of_within hS os)
      ({ E with schema := S }.objects_le_of_within hS' os)
    have hunits := Nat.le_antisymm
      (E.units_le_of_within hS os fun f _ => f.isUndefined_of_within hS hS')
      ({ E with schema := S }.units_le_of_within hS' os fun f _ => f.isUndefined_of_within hS' hS)
    rw [metrics, metrics, hobjects, hunits]
  rw [estimate_withSchema, estimate_result, hmetrics]

end Estimator

end QueryTariff
