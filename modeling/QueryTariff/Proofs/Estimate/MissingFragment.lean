import QueryTariff.Proofs.Estimate.Alike
import QueryTariff.Proofs.Estimate.Monotone
import QueryTariff.Proofs.Expansion.MissingFragment

/-!
Estimates without a fragment. Where the fragments of one name are taken away, fields disappear and
those that are left stand where they stood, so there is still an estimate and neither score is
larger (`estimate_withoutFragment_le`).
-/

namespace QueryTariff

namespace Selection.Pruned

variable {items items' : List Selection}

theorem isEmpty (h : Selection.Pruned items items') : items'.isEmpty = items.isEmpty := by
  cases h <;> rfl

theorem nesting_le (h : Selection.Pruned items items') :
    Selection.nesting items' ≤ Selection.nesting items := by
  induction h with
  | nil => exact Nat.le_refl _
  | field _ _ hbody _ ihBody ihRest =>
    rw [Selection.nesting, Selection.nesting, hbody.isEmpty]
    split_ifs <;> omega
  | inlineFragment _ _ _ _ _ _ ihBody ihRest =>
    rw [Selection.nesting, Selection.nesting]
    omega
  | spread _ _ _ _ ih =>
    rw [Selection.nesting, Selection.nesting]
    exact ih
  | cut _ _ _ _ _ _ _ ih =>
    rw [Selection.nesting, Selection.nesting]
    omega

theorem occurrencesBelow_sublist (kind : OperationKind) (h : Selection.Pruned items items')
    (above : List Enclosure) :
    (occurrencesBelow kind above items').Sublist (occurrencesBelow kind above items) := by
  induction h generalizing above with
  | nil => exact List.Sublist.refl _
  | field head _ _ _ ihBody ihRest =>
    rw [occurrencesBelow, occurrencesBelow]
    exact ((ihBody _).append (ihRest above)).cons_cons _
  | inlineFragment _ _ _ _ _ _ ihBody ihRest =>
    rw [occurrencesBelow, occurrencesBelow]
    exact (ihBody _).append (ihRest above)
  | spread _ _ _ _ ih =>
    rw [occurrencesBelow, occurrencesBelow]
    exact ih above
  | cut _ _ _ _ _ _ _ ih =>
    rw [occurrencesBelow, occurrencesBelow]
    exact (ih above).trans (List.sublist_append_right _ _)

end Selection.Pruned

namespace Operation.Pruned

theorem name? {o o' : Operation} (h : Operation.Pruned o o') : o'.name? = o.name? :=
  Operation.name?_congr h.head?

theorem occurrences_sublist {o o' : Operation} (h : Operation.Pruned o o') :
    o'.occurrences.Sublist o.occurrences := by
  rw [Operation.occurrences, Operation.occurrences, Operation.kind_congr h.head?]
  exact h.items.occurrencesBelow_sublist o.kind []

end Operation.Pruned

theorem occurrencesOf_sublist {os os' : List Operation}
    (h : List.Forall₂ Operation.Pruned os os') :
    (occurrencesOf os').Sublist (occurrencesOf os) := by
  induction h with
  | nil => exact List.Sublist.refl _
  | cons ho _ ih => exact ho.occurrences_sublist.append ih

theorem forall_nesting_of_pruned {os os' : List Operation}
    (h : List.Forall₂ Operation.Pruned os os') (bound : Nat)
    (hos : ∀ o ∈ os, 1 + Selection.nesting o.body.items ≤ bound) :
    ∀ o ∈ os', 1 + Selection.nesting o.body.items ≤ bound := by
  intro o' ho'
  obtain ⟨o, ho, hpruned⟩ := exists_left_of_mem_forall₂ h ho'
  have hbound := hos o ho
  have hnesting := hpruned.items.nesting_le
  omega

namespace Estimator

theorem scoredOperations_withoutFragment {E : Estimator} {d : Document} {os : List Operation}
    (name : String) (h : E.scoredOperations d = .ok os) :
    ∃ os', E.scoredOperations (d.withoutFragment name) = .ok os' ∧
      List.Forall₂ Operation.Pruned os os' := by
  obtain ⟨o, ho, hos, hdepth⟩ := scoredOperations_eq_ok_iff.mp h
  obtain ⟨o', ho', hoperations⟩ := Document.expand_withoutFragment name ho
  rcases E.selectedOperations_of_forall₂ (fun _ _ => Operation.Pruned.name?) hoperations with
    ⟨ps, os', hps, hos', hpruned⟩ | ⟨e, he, -⟩
  · rw [hos] at hps
    cases hps
    have hdepth' := forall_nesting_of_pruned hpruned E.maxDepth hdepth
    exact ⟨os', scoredOperations_eq_ok_iff.mpr ⟨o', ho', hos', hdepth'⟩, hpruned⟩
  · rw [hos] at he
    cases he

/-- Take away the fragments of one name: there is still an estimate, and neither of its scores is
larger. -/
theorem estimate_withoutFragment_le (E : Estimator) (d : Document) (name : String) (m : Metrics)
    (h : (E.estimate d).result = .ok m) :
    ∃ m', (E.estimate (d.withoutFragment name)).result = .ok m' ∧
      m'.cost ≤ m.cost ∧ m'.maxNode ≤ m.maxNode := by
  obtain ⟨os, hos, rfl⟩ := estimate_eq_ok_iff.mp h
  obtain ⟨os', hos', hpruned⟩ := scoredOperations_withoutFragment name hos
  have hsublist := occurrencesOf_sublist hpruned
  have hsum (exact : Occurrence → Nat) :
      ((occurrencesOf os').map exact).sum ≤ ((occurrencesOf os).map exact).sum :=
    (hsublist.map exact).sum_le_sum fun _ _ => Nat.zero_le _
  refine ⟨E.metrics os', estimate_eq_ok_iff.mpr ⟨os', hos', rfl⟩, ?_, ?_⟩
  · exact metrics_cost_le (hsum _)
  · exact Saturating.clamp_le_clamp (hsum _)

end Estimator

namespace Sample

/-- The inner page is gone with the only fragment. -/
theorem estimate_pageInPage_withoutFragment :
    ((pageEstimator 10 7).estimate (pageInPage 10)).result = .ok ⟨14, 210⟩ ∧
    ((pageEstimator 10 7).estimate ((pageInPage 10).withoutFragment "Inner")).result =
      .ok ⟨0, 10⟩ ∧ 0 ≤ 14 ∧ 10 ≤ 210 := by
  have hpruned : ((pageEstimator 10 7).estimate ((pageInPage 10).withoutFragment "Inner")).result =
      .ok ⟨0, 10⟩ := by cbv
  obtain ⟨m, hm, hle⟩ := Estimator.estimate_withoutFragment_le _ _ "Inner" _ estimate_pageInPage
  rw [hpruned] at hm
  cases hm
  exact ⟨estimate_pageInPage, hpruned, hle⟩

end Sample

end QueryTariff
