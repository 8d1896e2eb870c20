import QueryTariff.Proofs.Estimate.Alike
import QueryTariff.Proofs.Expansion.FullExpansion

/-!
Why there is no estimate. The expansion fails, or no operation has the name asked for, or selection
sets of an operation to score lie too deep, in this order; otherwise there is an estimate. Neither
the schema nor the bindings nor the weights have a part in it (`estimate_fails_iff`).
-/

namespace QueryTariff

/-- How many selection sets lie in each other, the outermost one included. -/
def SelectionSet.depth (s : SelectionSet) : Nat := 1 + Selection.nesting s.items

example : (SelectionSet.mk Sample.span [Sample.into "T" [], Sample.select "a" [],
    Sample.spread "F"]).depth = 2 := by cbv

/-- Expansion keeps what stands before the selections of operations. -/
theorem Document.operationNames_of_expand {d o : Document} {limit : Nat}
    (h : (d.expand limit).result = .ok o) :
    o.operations.map Operation.name? = d.operations.map Operation.name? := by
  have hcorresponds : Corresponds (fun p q => q.name? = p.name?) (fun _ _ => True) d o := by
    refine List.Forall₂.imp (fun x y hxy => ?_) (fullExpansion_of_expand h)
    cases hxy with
    | operation _ _ => exact .operation rfl
    | fragment _ _ => exact .fragment trivial
  exact map_eq_of_forall₂ (fun _ _ hname => hname) hcorresponds.operations

theorem Document.exists_operation_iff {d o : Document} {limit : Nat}
    (h : (d.expand limit).result = .ok o) (name? : Option String) :
    (∃ p ∈ o.operations, p.name? = name?) ↔ ∃ p ∈ d.operations, p.name? = name? := by
  rw [← List.mem_map, ← List.mem_map, operationNames_of_expand h]

namespace Estimator

variable {E : Estimator} {d o : Document}

/-- Every operation is to be scored, unless a name is asked for that it does not have. -/
def Selects (E : Estimator) (p : Operation) : Prop := ∀ name ∈ E.operationName?, p.name? = some name

theorem selectedOperations_eq_error_iff {e : EstimateError} :
    E.selectedOperations d = .error e ↔
      ∃ name, E.operationName? = some name ∧ (¬ ∃ p ∈ d.operations, p.name? = some name) ∧
        e = .unknownOperation name := by
  unfold selectedOperations
  cases E.operationName? with
  | none => simp
  | some name =>
    have hnil : d.operations.filter (·.name? = some name) = [] ↔
        ¬ ∃ p ∈ d.operations, p.name? = some name := by simp
    simp only [Option.some.injEq, exists_eq_left', ← hnil]
    cases d.operations.filter (·.name? = some name) with
    | nil => simp [eq_comm]
    | cons p ps => simp

theorem mem_selectedOperations {os : List Operation} (h : E.selectedOperations d = .ok os)
    (p : Operation) : p ∈ os ↔ p ∈ d.operations ∧ E.Selects p := by
  unfold selectedOperations at h
  unfold Selects
  cases hname : E.operationName? with
  | none =>
    rw [hname] at h
    cases h
    simp
  | some name =>
    rw [hname] at h
    have hmem : p ∈ d.operations.filter (·.name? = some name) ↔
        p ∈ d.operations ∧ p.name? = some name := by simp
    dsimp only at h
    simp only [Option.mem_def, Option.some.injEq, forall_eq', ← hmem]
    cases hnamed : d.operations.filter (·.name? = some name) with
    | nil =>
      rw [hnamed] at h
      cases h
    | cons q qs =>
      rw [hnamed] at h
      cases h
      rfl

theorem exists_deep_selectedOperations {os : List Operation} (h : E.selectedOperations d = .ok os) :
    (¬ ∀ p ∈ os, 1 + Selection.nesting p.body.items ≤ E.maxDepth) ↔
      ∃ p ∈ d.operations, E.Selects p ∧ E.maxDepth < p.body.depth := by
  simp only [mem_selectedOperations h, SelectionSet.depth]
  push Not
  simp only [and_assoc]

theorem exists_selectedOperations_iff :
    (∃ os, E.selectedOperations d = .ok os) ↔
      ∀ name ∈ E.operationName?, ∃ p ∈ d.operations, p.name? = some name := by
  cases hos : E.selectedOperations d with
  | error e =>
    obtain ⟨name, hname, hnone, -⟩ := selectedOperations_eq_error_iff.mp hos
    exact ⟨nofun, fun h => absurd (h name hname) hnone⟩
  | ok os =>
    refine ⟨fun _ name hname => ?_, fun _ => ⟨os, rfl⟩⟩
    by_contra hnone
    rw [selectedOperations_eq_error_iff.mpr ⟨name, hname, hnone, rfl⟩] at hos
    cases hos

/-- The three reasons for which nothing is scored. -/
theorem scoredOperations_eq_error_iff {e : EstimateError} :
    E.scoredOperations d = .error e ↔
      (∃ e', (d.expand E.maxSelections).result = .error e' ∧ e = .expansion e') ∨
      ∃ o, (d.expand E.maxSelections).result = .ok o ∧
        ((∃ name, E.operationName? = some name ∧ (¬ ∃ p ∈ d.operations, p.name? = some name) ∧
            e = .unknownOperation name) ∨
          (∃ p ∈ o.operations, E.Selects p ∧ E.maxDepth < p.body.depth) ∧
            e = .nestingTooDeep E.maxDepth) := by
  rw [scoredOperations]
  cases hexpand : (d.expand E.maxSelections).result with
  | error e' => simp [Except.mapError, eq_comm]
  | ok o =>
    simp only [Except.mapError, Logged.ok_bind, reduceCtorEq, false_and, exists_false, false_or,
      Except.ok.injEq, exists_eq_left', walkedOperations, ← Document.exists_operation_iff hexpand]
    rw [← selectedOperations_eq_error_iff]
    cases hos : E.selectedOperations o with
    | error e' =>
      -- No operation has the name asked for, so none is selected that could lie too deep.
      obtain ⟨name, hname, hnone, -⟩ := selectedOperations_eq_error_iff.mp hos
      have hdeep : ¬ ∃ p ∈ o.operations, E.Selects p ∧ E.maxDepth < p.body.depth := by
        rintro ⟨p, hp, hselects, -⟩
        exact hnone ⟨p, hp, hselects name hname⟩
      simp [hdeep]
    | ok os =>
      rw [← exists_deep_selectedOperations hos, Logged.ok_bind]
      by_cases hdepth : ∀ p ∈ os, 1 + Selection.nesting p.body.items ≤ E.maxDepth
      · rw [if_pos hdepth]
        constructor
        · intro h
          cases h
        · rintro (h | ⟨hdeep, -⟩)
          · cases h
          · exact absurd hdepth hdeep
      · rw [if_neg hdepth]
        simp [hdepth, eq_comm]

theorem estimate_eq_error_iff {e : EstimateError} :
    (E.estimate d).result = .error e ↔ E.scoredOperations d = .error e := by
  rw [estimate_result]
  cases E.scoredOperations d with
  | error e' => exact ⟨fun h => by cases h; rfl, fun h => by cases h; rfl⟩
  | ok os => exact ⟨nofun, nofun⟩

theorem exists_estimate_iff :
    (∃ m, (E.estimate d).result = .ok m) ↔
      ∃ o, (d.expand E.maxSelections).result = .ok o ∧
        (∀ name ∈ E.operationName?, ∃ p ∈ d.operations, p.name? = some name) ∧
        ∀ p ∈ o.operations, E.Selects p → p.body.depth ≤ E.maxDepth := by
  constructor
  · rintro ⟨m, hm⟩
    obtain ⟨os, hos, -⟩ := estimate_eq_ok_iff.mp hm
    obtain ⟨o, ho, hos, hdepth⟩ := scoredOperations_eq_ok_iff.mp hos
    refine ⟨o, ho, fun name hname => ?_, fun p hp hselects => ?_⟩
    · rw [← Document.exists_operation_iff ho]
      exact exists_selectedOperations_iff.mp ⟨os, hos⟩ name hname
    · exact hdepth p ((mem_selectedOperations hos p).mpr ⟨hp, hselects⟩)
  · rintro ⟨o, ho, hnames, hdepth⟩
    simp only [← Document.exists_operation_iff ho] at hnames
    obtain ⟨os, hos⟩ := exists_selectedOperations_iff.mpr hnames
    have hscored : E.scoredOperations d = .ok os := by
      refine scoredOperations_eq_ok_iff.mpr ⟨o, ho, hos, fun p hp => ?_⟩
      obtain ⟨hp, hselects⟩ := (mem_selectedOperations hos p).mp hp
      exact hdepth p hp hselects
    exact ⟨_, estimate_eq_ok_iff.mpr ⟨os, hscored, rfl⟩⟩

/-- An estimate fails as the expansion does; or else for want of an operation of the name asked for;
or else since an operation to score lies too deep; or else it does not fail. The schema, the
bindings and the weights make no difference to it. -/
theorem estimate_fails_iff (E : Estimator) (d : Document) :
    (∀ e, (E.estimate d).result = .error (.expansion e) ↔
      (d.expand E.maxSelections).result = .error e) ∧
    (∀ name, (E.estimate d).result = .error (.unknownOperation name) ↔
      ∃ o, (d.expand E.maxSelections).result = .ok o ∧ E.operationName? = some name ∧
        ¬ ∃ p ∈ d.operations, p.name? = some name) ∧
    (∀ n, (E.estimate d).result = .error (.nestingTooDeep n) ↔
      ∃ o, (d.expand E.maxSelections).result = .ok o ∧
        (∃ p ∈ o.operations, E.Selects p ∧ E.maxDepth < p.body.depth) ∧ n = E.maxDepth) ∧
    ((∃ m, (E.estimate d).result = .ok m) ↔
      ∃ o, (d.expand E.maxSelections).result = .ok o ∧
        (∀ name ∈ E.operationName?, ∃ p ∈ d.operations, p.name? = some name) ∧
        ∀ p ∈ o.operations, E.Selects p → p.body.depth ≤ E.maxDepth) ∧
    ∀ S V w e, ({ E with schema := S, bindings := V, weights := w }.estimate d).result = .error e ↔
      (E.estimate d).result = .error e := by
  refine ⟨fun e => ?_, fun name => ?_, fun n => ?_, exists_estimate_iff, fun S V w e => ?_⟩
  · rw [estimate_eq_error_iff, scoredOperations_eq_error_iff]
    simp
  · rw [estimate_eq_error_iff, scoredOperations_eq_error_iff]
    simp
  · rw [estimate_eq_error_iff, scoredOperations_eq_error_iff]
    simp
  · rw [estimate_eq_error_iff, estimate_eq_error_iff]
    rfl

end Estimator

end QueryTariff
