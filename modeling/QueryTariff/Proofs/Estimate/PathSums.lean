import QueryTariff.Estimate
import QueryTariff.Proofs.Walk.Simulation
import Mathlib

/-!
Both scores as sums over occurrences. A walk saturates at every product and every sum; the sums here
are counted without bound and clamped once (`estimate_eq_clamped_sums`).
-/

namespace QueryTariff

open Saturating

namespace Occurrence

variable (S : Schema) (V : Bindings) (w : Weights) (f : Occurrence)

/-- The weight of what the field gives; a type that is not known weighs nothing. -/
def weight : Nat := ((f.returnType? S).map fun t => w.weight t.name).getD 0

/-- The units that the field costs, counted without bound. -/
def units : Nat :=
  match f.pageSize? V with
  | none => 0
  | some p => if f.isUndefined S then 0 else f.multiplier V + f.weight S w * p * f.multiplier V

/-- The field is `edges` and the nearest field around it has a page size, or it is `node` and the
nearest field around it is `edges`. -/
def repeatsObjects : Bool :=
  (f.head.name = "edges" && (f.parent? V).any (·.pageSize?.isSome)) ||
    (f.head.name = "node" && (f.parent? V).any (·.name = "edges"))

/-- The objects that the field adds, counted without bound. -/
def objects : Nat :=
  if (f.returnType? S).any NamedType.isObject then
    match f.pageSize? V with
    | some p => p * f.multiplier V
    | none => if f.repeatsObjects V then 0 else f.multiplier V
  else 0

theorem repeatsObjects_eq :
    f.repeatsObjects V =
      ((f.head.name = "edges" &&
          (fieldsAround f.above).getLast?.any fun h => (pageSize V h.arguments).isSome) ||
        (f.head.name = "node" && (fieldsAround f.above).getLast?.any (·.name = "edges"))) := by
  rw [repeatsObjects, parent?, parentAround, Option.any_map, Option.any_map]
  rfl

end Occurrence

theorem isConnectionWrapper_visit (W : Walker) (f : Occurrence) :
    Score.isConnectionWrapper (f.visit W) = f.repeatsObjects W.bindings := by
  have hv : (f.visit W).parent? = f.parent? W.bindings := rfl
  have hf : (f.visit W).field = f.head := rfl
  rw [Score.isConnectionWrapper, Occurrence.repeatsObjects, hv, hf]
  cases f.parent? W.bindings with
  | none => simp
  | some parent =>
    by_cases he : f.head.name = "edges"
    · simp [he]
    · simp [he]

theorem add_mul_clamp (m weight p : Nat) :
    add (clamp m) (mul (mul weight p) (clamp m)) = clamp (m + weight * p * m) := by
  calc
    add (clamp m) (mul (mul weight p) (clamp m)) = add m (mul (clamp (weight * p)) m) := by
      rw [add_clamp_left, mul_clamp_right, mul.eq_1 weight p]
    _ = add m (clamp (weight * p * m)) := by rw [mul_clamp_left, mul.eq_1]
    _ = clamp (m + weight * p * m) := by rw [add_clamp_right, add.eq_1]

theorem fieldCost?_visit (W : Walker) (w : Weights) (f : Occurrence) :
    clamp ((Score.fieldCost? w (f.visit W)).getD 0) = clamp (f.units W.schema W.bindings w) := by
  have hp : (f.visit W).pageSize? = f.pageSize? W.bindings := rfl
  have hu : (f.visit W).undefinedOnParent = f.isUndefined W.schema := rfl
  have hm : (f.visit W).multiplier = clamp (f.multiplier W.bindings) := rfl
  have hw : ((f.visit W).returnType?.map fun t => w.weight t.name).getD 0 = f.weight W.schema w :=
    rfl
  simp only [Score.fieldCost?, Occurrence.units, hp, hu, hm, hw]
  cases f.pageSize? W.bindings with
  | none => rfl
  | some p =>
    cases f.isUndefined W.schema with
    | true => rfl
    | false =>
      by_cases hz : f.weight W.schema w = 0
      · simp [hz]
      · simp only [hz, Bool.false_eq_true, if_false, Option.getD_some]
        rw [add_mul_clamp, clamp_clamp]

theorem fieldNodes?_visit (W : Walker) (f : Occurrence) :
    clamp ((Score.fieldNodes? (f.visit W)).getD 0) = clamp (f.objects W.schema W.bindings) := by
  have hp : (f.visit W).pageSize? = f.pageSize? W.bindings := rfl
  have hm : (f.visit W).multiplier = clamp (f.multiplier W.bindings) := rfl
  have hr : (f.visit W).returnType? = f.returnType? W.schema := rfl
  have hmul (p m : Nat) : clamp (mul p m) = clamp (p * m) := clamp_clamp _
  simp only [Score.fieldNodes?, Occurrence.objects, isConnectionWrapper_visit, hp, hm, hr]
  cases f.returnType? W.schema with
  | none => rfl
  | some t =>
    cases ht : t.isObject with
    | false => simp [ht]
    | true =>
      cases f.pageSize? W.bindings with
      | none => cases f.repeatsObjects W.bindings <;> simp [ht]
      | some p => simp [ht, hmul]

/-- Saturating at every field is as good as clamping the sum. -/
theorem tally_accumulate (W : Walker) (scorer : Scorer Nat) (amount? : Visit → Option Nat)
    (exact : Occurrence → Nat) (hs : scorer.score = Score.accumulate amount?)
    (ha : ∀ f : Occurrence, clamp ((amount? (f.visit W)).getD 0) = clamp (exact f))
    (fs : List Occurrence) (n : Nat) :
    scorer.tally W (clamp n) fs = clamp (n + (fs.map exact).sum) := by
  induction fs generalizing n with
  | nil => rfl
  | cons f fs ih =>
    -- A field that adds nothing is passed over, so its total is not clamped again.
    have hstep : scorer.score (f.visit W) (clamp n) = clamp (n + exact f) := by
      have hf := ha f
      rw [hs, Score.accumulate]
      cases hv : amount? (f.visit W) with
      | none =>
        rw [hv, Option.getD_none] at hf
        simp only [clamp] at hf ⊢
        omega
      | some k =>
        rw [hv, Option.getD_some] at hf
        simp only [add, clamp] at hf ⊢
        omega
    calc
      scorer.tally W (clamp n) (f :: fs) = scorer.tally W (scorer.score (f.visit W) (clamp n)) fs :=
        rfl
      _ = clamp (n + exact f + (fs.map exact).sum) := by rw [hstep, ih]
      _ = clamp (n + ((f :: fs).map exact).sum) := by
        rw [List.map_cons, List.sum_cons, Nat.add_assoc]

namespace Estimator

/-- The operations that are walked: those selected, unless the selection sets of one lie too
deep. -/
def walkedOperations (E : Estimator) (o : Document) : Except EstimateError (List Operation) := do
  let os ← E.selectedOperations o
  if ∀ p ∈ os, 1 + Selection.nesting p.body.items ≤ E.maxDepth then .ok os
  else .error (.nestingTooDeep E.maxDepth)

theorem walkedOperations_eq_ok_iff {E : Estimator} {o : Document} {os : List Operation} :
    E.walkedOperations o = .ok os ↔ E.selectedOperations o = .ok os ∧
      ∀ p ∈ os, 1 + Selection.nesting p.body.items ≤ E.maxDepth := by
  unfold walkedOperations
  cases E.selectedOperations o with
  | error e => exact ⟨nofun, fun h => nomatch h.1⟩
  | ok ps =>
    simp only [Logged.ok_bind, Except.ok.injEq]
    constructor
    · intro h
      split_ifs at h with hdepth
      cases h
      exact ⟨rfl, hdepth⟩
    · rintro ⟨rfl, hdepth⟩
      exact if_pos hdepth

/-- What is walked does not depend on the scorer. -/
theorem total_result (E : Estimator) (scorer : Scorer Nat) (o : Document) :
    (E.total scorer o).result =
      (E.walkedOperations o).map fun os => scorer.tally E.walker 0 (occurrencesOf os) := by
  rw [total, Logged.result_bind, Logged.result_silent, walkedOperations]
  cases E.selectedOperations o with
  | error e => rfl
  | ok os =>
    have hdepth : E.walker.maxDepth = E.maxDepth := rfl
    simp only [Logged.ok_bind, Logged.result_mapError, Walker.walkAll_result, hdepth]
    split_ifs <;> rfl

/-- A total is the sum of exact amounts, clamped. -/
theorem total_eq_map_sum (E : Estimator) (scorer : Scorer Nat) (amount? : Visit → Option Nat)
    (exact : Occurrence → Nat) (hs : scorer.score = Score.accumulate amount?)
    (ha : ∀ f : Occurrence, clamp ((amount? (f.visit E.walker)).getD 0) = clamp (exact f))
    (o : Document) :
    (E.total scorer o).result =
      (E.walkedOperations o).map fun os => clamp ((occurrencesOf os).map exact).sum := by
  have hsum (os : List Operation) : scorer.tally E.walker 0 (occurrencesOf os) =
      clamp ((occurrencesOf os).map exact).sum := by
    have hzero : clamp 0 = 0 := rfl
    have htally := tally_accumulate E.walker scorer amount? exact hs ha (occurrencesOf os) 0
    rwa [Nat.zero_add, hzero] at htally
  simp only [total_result, hsum]

/-- An estimate is two sums over the fields of the selected operations of the expanded document,
taken over natural numbers of any size and clamped once. -/
theorem estimate_eq_clamped_sums (E : Estimator) (d : Document) (m : Metrics)
    (h : (E.estimate d).result = .ok m) :
    ∃ o os, (d.expand E.maxSelections).result = .ok o ∧ E.selectedOperations o = .ok os ∧
      m.cost = min (2 ^ 64 - 1)
        ((occurrencesOf os).map (Occurrence.units E.schema E.bindings E.weights)).sum / 100 ∧
      m.maxNode = min (2 ^ 64 - 1)
        ((occurrencesOf os).map (Occurrence.objects E.schema E.bindings)).sum := by
  obtain ⟨o, ho, h⟩ := Logged.result_bind_eq_ok.mp h
  obtain ⟨c, hc, h⟩ := Logged.result_bind_eq_ok.mp h
  obtain ⟨n, hn, h⟩ := Logged.result_bind_eq_ok.mp h
  obtain ⟨u, hu, hc⟩ := Logged.result_bind_eq_ok.mp hc
  rw [total_eq_map_sum E _ _ _ rfl (fieldCost?_visit E.walker E.weights)] at hu
  rw [maxNodeOfExpanded, total_eq_map_sum E _ _ _ rfl (fieldNodes?_visit E.walker)] at hn
  cases hos : E.walkedOperations o with
  | error e =>
    rw [hos] at hn
    cases hn
  | ok os =>
    rw [hos] at hu hn
    cases hu
    cases hn
    cases hc
    cases h
    refine ⟨o, os, Logged.result_mapError_eq_ok.mp ho, (walkedOperations_eq_ok_iff.mp hos).1, ?_, ?_⟩
    · exact congrArg (· / 100) (Nat.min_comm _ _)
    · exact Nat.min_comm _ _

def pagedSchema : Schema where
  types := NameMap.ofList [
    objectOf "Query" "users" "Users", objectOf "Users" "edges" "UserEdge",
    objectOf "UserEdge" "node" "User", objectOf "User" "users" "Users"]
  query := "Query"
  mutation? := none
  subscription? := none
where
  objectOf (name field type : String) : String × NamedType :=
    (name, .object ⟨name, .builtIn, [], NameMap.ofList
      [(field, ⟨field, .builtIn, .named ⟨.builtIn, true, type⟩⟩)]⟩)

/-- Two pages in each other whose product is beyond 64 bits, with an empty page and a field that is
not defined below them; the inner page comes from a fragment. -/
def pagedDocument : Document where
  definitions := [
    .operation ⟨none, span, [select "users" [("first", .int 0x100000000)]
      [select "edges" [] [select "node" [] [.spread .start "Inner" []]]]]⟩,
    .fragment ⟨.start, "Inner", "User", [], span, [select "users" [("first", .var "n")]
      [select "edges" [("last", .int 0)] [select "node" [] []], select "lost" [("first", .int 3)] []]]⟩]
where
  span : Span := ⟨.start, .start⟩
  select (name : String) (arguments : Arguments) (items : List Selection) : Selection :=
    .field ⟨.start, none, name, arguments, []⟩ span items

def pagedEstimator : Estimator where
  schema := pagedSchema
  bindings := NameMap.ofList [("n", 0x100000001)]
  weights := NameMap.ofList [("Users", 7)]

theorem estimate_pagedDocument :
    (pagedEstimator.estimate pagedDocument).result =
      .ok ⟨184467440737095516, 18446744073709551615⟩ ∧
    ∃ o os, (pagedDocument.expand 100000).result = .ok o ∧
      pagedEstimator.selectedOperations o = .ok os ∧
      184467440737095516 = min (2 ^ 64 - 1) ((occurrencesOf os).map (Occurrence.units pagedSchema
        pagedEstimator.bindings pagedEstimator.weights)).sum / 100 ∧
      18446744073709551615 = min (2 ^ 64 - 1)
        ((occurrencesOf os).map (Occurrence.objects pagedSchema pagedEstimator.bindings)).sum := by
  have h : (pagedEstimator.estimate pagedDocument).result =
      .ok ⟨184467440737095516, 18446744073709551615⟩ := by cbv
  exact ⟨h, estimate_eq_clamped_sums pagedEstimator pagedDocument _ h⟩

end Estimator

end QueryTariff
