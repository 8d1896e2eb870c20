import QueryTariff.Proofs.Estimate.PathSums

/-!
What an estimate comes to. The operations to score are found without a look at the schema, the
bindings or the weights, or else there is an error; where they are found, their scores are sums over
their fields (`estimate_result`).
-/

namespace QueryTariff

open Saturating

namespace Estimator

/-- The units that operations cost, counted without bound. -/
def units (E : Estimator) (os : List Operation) : Nat :=
  ((occurrencesOf os).map (Occurrence.units E.schema E.bindings E.weights)).sum

/-- The objects that operations add, counted without bound. -/
def objects (E : Estimator) (os : List Operation) : Nat :=
  ((occurrencesOf os).map (Occurrence.objects E.schema E.bindings)).sum

def metrics (E : Estimator) (os : List Operation) : Metrics :=
  ⟨clamp (E.units os) / Score.unitsPerPoint, clamp (E.objects os)⟩

theorem metrics_cost_le {E E' : Estimator} {os os' : List Operation}
    (h : E.units os ≤ E'.units os') : (E.metrics os).cost ≤ (E'.metrics os').cost :=
  Nat.div_le_div_right (clamp_le_clamp h)

theorem costOfExpanded_result (E : Estimator) (o : Document) :
    (E.costOfExpanded o).result = (E.walkedOperations o).map fun os => (E.metrics os).cost := by
  rw [costOfExpanded, Logged.result_bind,
    total_eq_map_sum E _ _ _ rfl (fieldCost?_visit E.walker E.weights)]
  cases E.walkedOperations o <;> rfl

theorem maxNodeOfExpanded_result (E : Estimator) (o : Document) :
    (E.maxNodeOfExpanded o).result = (E.walkedOperations o).map fun os => (E.metrics os).maxNode :=
  total_eq_map_sum E _ _ _ rfl (fieldNodes?_visit E.walker) o

/-- The operations that are scored, or why there is no estimate. -/
def scoredOperations (E : Estimator) (d : Document) : Except EstimateError (List Operation) := do
  let o ← (d.expand E.maxSelections).result.mapError .expansion
  E.walkedOperations o

/-- An estimate takes the operations to score, if there are any, and gives both their scores. -/
theorem estimate_result (E : Estimator) (d : Document) :
    (E.estimate d).result = (E.scoredOperations d).map E.metrics := by
  have hexpand : (E.expand d).result = (d.expand E.maxSelections).result.mapError .expansion := rfl
  rw [estimate, Logged.result_bind, hexpand, scoredOperations]
  cases (d.expand E.maxSelections).result.mapError EstimateError.expansion with
  | error e => rfl
  | ok o =>
    simp only [Logged.ok_bind, Logged.result_bind, costOfExpanded_result, maxNodeOfExpanded_result]
    cases E.walkedOperations o <;> rfl

theorem scoredOperations_eq_ok_iff {E : Estimator} {d : Document} {os : List Operation} :
    E.scoredOperations d = .ok os ↔
      ∃ o, (d.expand E.maxSelections).result = .ok o ∧ E.selectedOperations o = .ok os ∧
        ∀ p ∈ os, 1 + Selection.nesting p.body.items ≤ E.maxDepth := by
  unfold scoredOperations
  cases (d.expand E.maxSelections).result with
  | error e => simp [Except.mapError]
  | ok o =>
    simp only [Except.mapError, Logged.ok_bind, Except.ok.injEq, exists_eq_left']
    exact walkedOperations_eq_ok_iff

theorem estimate_eq_ok_iff {E : Estimator} {d : Document} {m : Metrics} :
    (E.estimate d).result = .ok m ↔ ∃ os, E.scoredOperations d = .ok os ∧ m = E.metrics os := by
  rw [estimate_result]
  cases E.scoredOperations d with
  | error e =>
    show Except.error e = .ok m ↔ _
    simp
  | ok os =>
    show Except.ok (E.metrics os) = .ok m ↔ _
    simp [eq_comm]

end Estimator

end QueryTariff
