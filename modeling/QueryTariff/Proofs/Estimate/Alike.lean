import QueryTariff.Proofs.Estimate.Outcome
import QueryTariff.Proofs.Walk.Alike

/-!
Estimates of alike documents. The same operations are scored in both, or both fail for the same
reason (`scoredOperations_of_alike`); where fields correspond in name and page size, there is one
estimate for both (`estimate_of_alike`).
-/

namespace QueryTariff

namespace Occurrence.Alike

variable {V V' : Bindings} {f f' : Occurrence}

/-- Whether a field repeats objects depends on the nearest field around it, by its name and by
whether it has a page size. -/
theorem repeatsObjects {R : FieldHead → FieldHead → Prop}
    (hR : ∀ h h', R h h' → h'.name = h.name ∧
      (pageSize V' h'.arguments).isSome = (pageSize V h.arguments).isSome)
    (h : Occurrence.Alike R f f') : f'.repeatsObjects V' = f.repeatsObjects V := by
  have hlast := lastAround_of_alike h.above
  rw [Occurrence.repeatsObjects_eq, Occurrence.repeatsObjects_eq, (hR _ _ h.head).1]
  generalize (fieldsAround f.above).getLast? = last at hlast ⊢
  generalize (fieldsAround f'.above).getLast? = last' at hlast ⊢
  cases hlast with
  | none => rfl
  | some hparent =>
    simp only [Option.any_some, (hR _ _ hparent).1, (hR _ _ hparent).2]

theorem units (h : Occurrence.Alike (FieldHead.SamePage V V') f f') (S : Schema) (w : Weights) :
    f'.units S V' w = f.units S V w := by
  have hpage : f'.pageSize? V' = f.pageSize? V := h.head.pageSize
  have hmultiplier : f'.multiplier V' = f.multiplier V := productAround_of_alike h.above
  have hweight : f'.weight S w = f.weight S w := by
    rw [Occurrence.weight, Occurrence.weight, h.returnType? FieldHead.SamePage.name S]
  rw [Occurrence.units, Occurrence.units, hpage, hmultiplier, hweight,
    h.isUndefined FieldHead.SamePage.name S]

theorem objects (h : Occurrence.Alike (FieldHead.SamePage V V') f f') (S : Schema) :
    f'.objects S V' = f.objects S V := by
  have hpage : f'.pageSize? V' = f.pageSize? V := h.head.pageSize
  have hmultiplier : f'.multiplier V' = f.multiplier V := productAround_of_alike h.above
  have hrepeats : f'.repeatsObjects V' = f.repeatsObjects V :=
    h.repeatsObjects fun _ _ hh => ⟨hh.name, congrArg Option.isSome hh.pageSize⟩
  rw [Occurrence.objects, Occurrence.objects, hpage, hmultiplier, hrepeats,
    h.returnType? FieldHead.SamePage.name S]

end Occurrence.Alike

namespace Estimator

/-- Operations are selected by their names. -/
theorem selectedOperations_of_forall₂ (E : Estimator) {P : Operation → Operation → Prop}
    (hP : ∀ o o', P o o' → o'.name? = o.name?) {d d' : Document}
    (h : List.Forall₂ P d.operations d'.operations) :
    (∃ os os', E.selectedOperations d = .ok os ∧ E.selectedOperations d' = .ok os' ∧
      List.Forall₂ P os os') ∨
    ∃ e, E.selectedOperations d = .error e ∧ E.selectedOperations d' = .error e := by
  unfold selectedOperations
  cases E.operationName? with
  | none => exact .inl ⟨d.operations, d'.operations, rfl, rfl, h⟩
  | some name =>
    have hnamed : List.Forall₂ P (d.operations.filter (·.name? = some name))
        (d'.operations.filter (·.name? = some name)) := by
      refine List.rel_filter (fun o o' ho => ?_) h
      show decide (o.name? = some name) = true ↔ decide (o'.name? = some name) = true
      rw [hP o o' ho]
    dsimp only
    generalize d.operations.filter (·.name? = some name) = named at hnamed ⊢
    generalize d'.operations.filter (·.name? = some name) = named' at hnamed ⊢
    cases hnamed with
    | nil => exact .inr ⟨.unknownOperation name, rfl, rfl⟩
    | cons ho hos => exact .inl ⟨_, _, rfl, rfl, .cons ho hos⟩

/-- Alike documents have alike operations to score, or neither has any for the same reason. -/
theorem scoredOperations_of_alike (E : Estimator) {R : FieldHead → FieldHead → Prop}
    {d d' : Document} (h : d.Alike R d') :
    (∃ os os', E.scoredOperations d = .ok os ∧ E.scoredOperations d' = .ok os' ∧
      List.Forall₂ (Operation.Alike R) os os') ∨
    ∃ e, E.scoredOperations d = .error e ∧ E.scoredOperations d' = .error e := by
  unfold scoredOperations
  rcases Document.expand_of_alike h E.maxSelections with ⟨o, o', ho, ho', halike⟩ | ⟨e, he, he'⟩
  · rcases E.selectedOperations_of_forall₂ (fun _ _ hab => hab.name?) halike.operations with
      ⟨os, os', hos, hos', hforall⟩ | ⟨e, he, he'⟩
    · have hdepth := forall_nesting_of_alike hforall E.maxDepth
      rw [ho, ho']
      simp only [Except.mapError, Logged.ok_bind, walkedOperations, hos, hos', hdepth]
      split_ifs
      · exact .inl ⟨os, os', rfl, rfl, hforall⟩
      · exact .inr ⟨_, rfl, rfl⟩
    · rw [ho, ho']
      simp only [Except.mapError, Logged.ok_bind, walkedOperations, he, he', Logged.error_bind]
      exact .inr ⟨e, rfl, rfl⟩
  · rw [he, he']
    exact .inr ⟨_, rfl, rfl⟩

/-- Where corresponding fields have the same name and, under the bindings of each side, the same
page size, there is one estimate for both documents. -/
theorem estimate_of_alike (E : Estimator) (V' : Bindings) {d d' : Document}
    (h : d.Alike (FieldHead.SamePage E.bindings V') d') :
    ({ E with bindings := V' }.estimate d').result = (E.estimate d).result := by
  have hscored : { E with bindings := V' }.scoredOperations d' = E.scoredOperations d' := rfl
  rw [estimate_result, estimate_result, hscored]
  rcases E.scoredOperations_of_alike h with ⟨os, os', hos, hos', halike⟩ | ⟨e, he, he'⟩
  · have hoccurrences := occurrencesOf_of_alike halike
    have hunits := map_eq_of_forall₂ (fun _ _ hf => hf.units E.schema E.weights) hoccurrences
    have hobjects := map_eq_of_forall₂ (fun _ _ hf => hf.objects E.schema) hoccurrences
    have hmetrics : { E with bindings := V' }.metrics os' = E.metrics os := by
      simp only [metrics, units, objects, hunits, hobjects]
    rw [hos, hos']
    exact congrArg Except.ok hmetrics
  · rw [he, he']
    rfl

end Estimator

end QueryTariff
