import QueryTariff.Proofs.Expansion.Alike
import QueryTariff.Proofs.Walk.Simulation

/-!
Fields of alike operations. They stand in alike places (`occurrencesOf_of_alike`), so where fields
that correspond have one name they have one type, and where they have one page size too, all around
them multiplies alike.
-/

namespace QueryTariff

variable {R : FieldHead → FieldHead → Prop}

inductive Enclosure.Alike (R : FieldHead → FieldHead → Prop) : Enclosure → Enclosure → Prop
  | field {h h' : FieldHead} : R h h' → Alike R (.field h) (.field h')
  | inlineFragment (on? : Option String) : Alike R (.inlineFragment on?) (.inlineFragment on?)

structure Occurrence.Alike (R : FieldHead → FieldHead → Prop) (f f' : Occurrence) : Prop where
  kind : f'.kind = f.kind
  above : List.Forall₂ (Enclosure.Alike R) f.above f'.above
  head : R f.head f'.head

theorem Selection.Alike.isEmpty {items items' : List Selection}
    (h : Selection.Alike R items items') : items'.isEmpty = items.isEmpty := by
  cases h <;> rfl

theorem Selection.Alike.nesting {items items' : List Selection}
    (h : Selection.Alike R items items') :
    Selection.nesting items' = Selection.nesting items := by
  induction h with
  | nil => rfl
  | field _ _ _ hbody _ ihBody ihRest =>
    rw [Selection.nesting, Selection.nesting, hbody.isEmpty, ihBody, ihRest]
  | spread _ _ _ _ _ _ ih => rw [Selection.nesting, Selection.nesting, ih]
  | inlineFragment _ _ _ _ _ _ _ _ _ ihBody ihRest =>
    rw [Selection.nesting, Selection.nesting, ihBody, ihRest]

theorem occurrencesBelow_of_alike (kind : OperationKind) {items items' : List Selection}
    (h : Selection.Alike R items items') {above above' : List Enclosure}
    (habove : List.Forall₂ (Enclosure.Alike R) above above') :
    List.Forall₂ (Occurrence.Alike R) (occurrencesBelow kind above items)
      (occurrencesBelow kind above' items') := by
  induction h generalizing above above' with
  | nil =>
    rw [occurrencesBelow, occurrencesBelow]
    exact .nil
  | field _ _ hhead _ _ ihBody ihRest =>
    have hbody := ihBody (List.rel_append habove (.cons (.field hhead) .nil))
    rw [occurrencesBelow, occurrencesBelow]
    exact .cons ⟨rfl, habove, hhead⟩ (List.rel_append hbody (ihRest habove))
  | spread _ _ _ _ _ _ ih =>
    rw [occurrencesBelow, occurrencesBelow]
    exact ih habove
  | inlineFragment _ _ on? _ _ _ _ _ _ ihBody ihRest =>
    have hbody := ihBody (List.rel_append habove (.cons (.inlineFragment on?) .nil))
    rw [occurrencesBelow, occurrencesBelow]
    exact List.rel_append hbody (ihRest habove)

theorem forall_nesting_of_alike {os os' : List Operation}
    (h : List.Forall₂ (Operation.Alike R) os os') (bound : Nat) :
    (∀ o ∈ os', 1 + Selection.nesting o.body.items ≤ bound) ↔
      ∀ o ∈ os, 1 + Selection.nesting o.body.items ≤ bound := by
  induction h with
  | nil => simp
  | cons ho _ ih => rw [List.forall_mem_cons, List.forall_mem_cons, ho.items.nesting, ih]

theorem occurrencesOf_of_alike {os os' : List Operation}
    (h : List.Forall₂ (Operation.Alike R) os os') :
    List.Forall₂ (Occurrence.Alike R) (occurrencesOf os) (occurrencesOf os') := by
  refine List.rel_flatMap h fun o o' ho => ?_
  rw [Operation.occurrences, Operation.occurrences, ho.kind]
  exact occurrencesBelow_of_alike o.kind ho.items .nil

theorem map_eq_of_forall₂ {α β γ : Type} {Q : α → β → Prop} {p : α → γ} {q : β → γ}
    (hpq : ∀ a b, Q a b → q b = p a) {xs : List α} {ys : List β} (h : List.Forall₂ Q xs ys) :
    ys.map q = xs.map p := by
  induction h with
  | nil => rfl
  | cons hab _ ih => rw [List.map_cons, List.map_cons, hpq _ _ hab, ih]

theorem fieldsAround_of_alike {above above' : List Enclosure}
    (h : List.Forall₂ (Enclosure.Alike R) above above') :
    List.Forall₂ R (fieldsAround above) (fieldsAround above') := by
  refine List.rel_filterMap ?_ h
  intro x y hxy
  cases hxy with
  | field hhead => exact .some hhead
  | inlineFragment _ => exact .none

theorem lastAround_of_alike {above above' : List Enclosure}
    (h : List.Forall₂ (Enclosure.Alike R) above above') :
    Option.Rel R (fieldsAround above).getLast? (fieldsAround above').getLast? := by
  have hreverse := List.rel_reverse (fieldsAround_of_alike h)
  rw [← List.head?_reverse, ← List.head?_reverse]
  generalize (fieldsAround above).reverse = hs at hreverse ⊢
  generalize (fieldsAround above').reverse = hs' at hreverse ⊢
  cases hreverse with
  | nil => exact .none
  | cons hlast _ => exact .some hlast

namespace Occurrence.Alike

variable {f f' : Occurrence}

theorem mono {Q : FieldHead → FieldHead → Prop} (hRQ : ∀ h h', R h h' → Q h h')
    (h : Occurrence.Alike R f f') : Occurrence.Alike Q f f' := by
  refine ⟨h.kind, h.above.imp ?_, hRQ _ _ h.head⟩
  intro x y hxy
  cases hxy with
  | field hhead => exact .field (hRQ _ _ hhead)
  | inlineFragment on? => exact .inlineFragment on?

theorem refl (hR : ∀ h, R h h) (f : Occurrence) : Occurrence.Alike R f f := by
  refine ⟨rfl, List.forall₂_same.mpr fun x _ => ?_, hR f.head⟩
  cases x with
  | field h => exact .field (hR h)
  | inlineFragment on? => exact .inlineFragment on?

/-! Types are found by the names of fields alone. -/

variable (hR : ∀ {h h'}, R h h' → h'.name = h.name) (h : Occurrence.Alike R f f') (S : Schema)

include hR h

theorem enclosingType? : f'.enclosingType? S = f.enclosingType? S := by
  have hchain : f'.above.map Enclosure.ancestor = f.above.map Enclosure.ancestor := by
    refine map_eq_of_forall₂ ?_ h.above
    intro x y hxy
    cases hxy with
    | field hhead => exact congrArg Ancestor.field (hR hhead)
    | inlineFragment _ => rfl
  rw [Occurrence.enclosingType?, Occurrence.enclosingType?, chainTo, chainTo, h.kind, hchain]

theorem definition? : f'.definition? S = f.definition? S := by
  rw [Occurrence.definition?, Occurrence.definition?, h.enclosingType? hR S, hR h.head]

theorem returnType? : f'.returnType? S = f.returnType? S := by
  rw [Occurrence.returnType?, Occurrence.returnType?, h.definition? hR S]

theorem isUndefined : f'.isUndefined S = f.isUndefined S := by
  rw [Occurrence.isUndefined, Occurrence.isUndefined, h.enclosingType? hR S, h.definition? hR S]

end Occurrence.Alike

/-- Fields that no estimate tells apart: they have one name, and each has under its own bindings the
page size that the other has. -/
structure FieldHead.SamePage (V V' : Bindings) (h h' : FieldHead) : Prop where
  name : h'.name = h.name
  pageSize : pageSize V' h'.arguments = pageSize V h.arguments

theorem productAround_of_alike {V V' : Bindings} {above above' : List Enclosure}
    (h : List.Forall₂ (Enclosure.Alike (FieldHead.SamePage V V')) above above') :
    productAround V' above' = productAround V above := by
  have hsizes := map_eq_of_forall₂ (fun _ _ hh => hh.pageSize) (fieldsAround_of_alike h)
  have hfilter := congrArg (List.filterMap id) hsizes
  rw [List.filterMap_map, List.filterMap_map] at hfilter
  exact congrArg List.prod hfilter

end QueryTariff
