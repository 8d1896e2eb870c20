import QueryTariff.Proofs.Estimate.Failure
import QueryTariff.Proofs.Estimate.Slice

/-!
Scores of several operations. Where all operations of a document have names of their own, each can be
estimated by its name, and the estimate of the document is made up of theirs: their objects add up,
and their costs add up but for the parts of points that each of them loses (`estimate_additive`).
-/

namespace QueryTariff

namespace Saturating

/-- Clamping the summands first makes no difference to a clamped sum. -/
theorem clamp_sum_clamp (ns : List Nat) : clamp (ns.map clamp).sum = clamp ns.sum := by
  induction ns with
  | nil => rfl
  | cons n ns ih =>
    calc
      clamp ((n :: ns).map clamp).sum = add (clamp n) (ns.map clamp).sum := rfl
      _ = add n (clamp (ns.map clamp).sum) := by rw [add_clamp_left, add_clamp_right]
      _ = add n ns.sum := by rw [ih, add_clamp_right]
      _ = clamp (n :: ns).sum := rfl

end Saturating

open Saturating

/-! ### Sums of quotients, each rounded down -/

theorem sum_div_le (k : Nat) (ns : List Nat) : (ns.map (· / k)).sum ≤ ns.sum / k := by
  induction ns with
  | nil => simp
  | cons n ns ih =>
    have hstep : n / k + ns.sum / k ≤ (n + ns.sum) / k := Nat.div_add_div_le_add_div
    simp only [List.map_cons, List.sum_cons]
    omega

theorem div_sum_le (k : Nat) (hk : 0 < k) (ns : List Nat) :
    ns.sum / k ≤ (ns.map (· / k)).sum + (ns.length - 1) := by
  induction ns with
  | nil => simp
  | cons n ns ih =>
    cases ns with
    | nil => simp
    | cons n' ns =>
      have hstep : (n + (n' :: ns).sum) / k ≤ n / k + (n' :: ns).sum / k + 1 := by
        rw [Nat.add_div hk]
        split_ifs <;> omega
      simp only [List.map_cons, List.sum_cons, List.length_cons] at ih hstep ⊢
      omega

/-- The points of a sum are those of its summands, if they are not beyond what 64 bits can count, and
at most one more for each summand after the first. -/
theorem points_of_sum (us : List Nat) :
    min (us.map fun u => clamp u / Score.unitsPerPoint).sum (ceiling / Score.unitsPerPoint) ≤
        clamp us.sum / Score.unitsPerPoint ∧
      clamp us.sum / Score.unitsPerPoint ≤
        (us.map fun u => clamp u / Score.unitsPerPoint).sum + (us.length - 1) := by
  have hpos : 0 < Score.unitsPerPoint := by decide
  have hmap : (us.map fun u => clamp u / Score.unitsPerPoint) =
      (us.map clamp).map (· / Score.unitsPerPoint) := by simp
  rw [← clamp_sum_clamp us, hmap]
  constructor
  · have hfloor := sum_div_le Score.unitsPerPoint (us.map clamp)
    rcases Nat.le_total (us.map clamp).sum ceiling with hle | hle
    · rw [clamp, Nat.min_eq_left hle]
      omega
    · rw [clamp, Nat.min_eq_right hle]
      omega
  · have hle : clamp (us.map clamp).sum ≤ (us.map clamp).sum := Nat.min_le_left _ _
    have hdiv : clamp (us.map clamp).sum / Score.unitsPerPoint ≤
        (us.map clamp).sum / Score.unitsPerPoint := Nat.div_le_div_right hle
    have hceil := div_sum_le Score.unitsPerPoint hpos (us.map clamp)
    rw [List.length_map] at hceil
    omega

/-- A sum over the fields of operations, one operation after the other. -/
theorem sum_occurrencesOf (amount : Occurrence → Nat) (os : List Operation) :
    ((occurrencesOf os).map amount).sum =
      (os.map fun p => ((occurrencesOf [p]).map amount).sum).sum := by
  induction os with
  | nil => rfl
  | cons p os ih =>
    have hcons : occurrencesOf (p :: os) = occurrencesOf [p] ++ occurrencesOf os := by
      simp [occurrencesOf]
    rw [hcons, List.map_append, List.sum_append, ih, List.map_cons, List.sum_cons]

theorem filter_name?_eq_singleton {os : List Operation} (h : (os.map Operation.name?).Nodup)
    {p : Operation} (hp : p ∈ os) : os.filter (·.name? = p.name?) = [p] := by
  induction os with
  | nil => cases hp
  | cons q os ih =>
    rw [List.map_cons, List.nodup_cons] at h
    obtain ⟨hq, hos⟩ := h
    rcases List.mem_cons.mp hp with rfl | hp
    · have hothers : os.filter (·.name? = p.name?) = [] := by
        apply List.filter_eq_nil_iff.mpr
        intro r hr hname
        exact hq (List.mem_map.mpr ⟨r, hr, of_decide_eq_true hname⟩)
      rw [List.filter_cons_of_pos (by simp), hothers]
    · have hne : ¬ q.name? = p.name? := by
        intro hname
        exact hq (List.mem_map.mpr ⟨p, hp, hname.symm⟩)
      rw [List.filter_cons_of_neg (by simpa using hne), ih hos hp]

namespace Estimator

variable {E : Estimator} {d : Document}

theorem metrics_maxNode_eq_sum (E : Estimator) (os : List Operation) :
    (E.metrics os).maxNode = clamp (os.map fun p => (E.metrics [p]).maxNode).sum := by
  have hsum : E.objects os = (os.map fun p => E.objects [p]).sum := sum_occurrencesOf _ os
  have hmap : (os.map fun p => (E.metrics [p]).maxNode) =
      (os.map fun p => E.objects [p]).map clamp := by
    rw [List.map_map]
    rfl
  rw [hmap, clamp_sum_clamp, ← hsum]
  rfl

theorem metrics_cost_between (E : Estimator) (os : List Operation) :
    min (os.map fun p => (E.metrics [p]).cost).sum (ceiling / Score.unitsPerPoint) ≤
        (E.metrics os).cost ∧
      (E.metrics os).cost ≤ (os.map fun p => (E.metrics [p]).cost).sum + (os.length - 1) := by
  have hsum : E.units os = (os.map fun p => E.units [p]).sum := sum_occurrencesOf _ os
  have hcost : (E.metrics os).cost = clamp (os.map fun p => E.units [p]).sum / Score.unitsPerPoint := by
    rw [← hsum]
    rfl
  have hmap : (os.map fun p => (E.metrics [p]).cost) =
      (os.map fun p => E.units [p]).map fun u => clamp u / Score.unitsPerPoint := by
    rw [List.map_map]
    rfl
  have hpoints := points_of_sum (os.map fun p => E.units [p])
  rw [List.length_map, ← hmap, ← hcost] at hpoints
  exact hpoints

/-- An operation of a document that is estimated as a whole can be estimated by its name, if no other
operation has it. -/
theorem estimate_named {os : List Operation} (hnone : E.operationName? = none)
    (hos : E.scoredOperations d = .ok os) (hdistinct : (os.map Operation.name?).Nodup)
    {p : Operation} (hp : p ∈ os) {name : String} (hname : p.name? = some name) :
    ({ E with operationName? := some name }.estimate d).result = .ok (E.metrics [p]) := by
  obtain ⟨o, ho, hselected, hdepth⟩ := scoredOperations_eq_ok_iff.mp hos
  have hall : o.operations = os := by
    simp only [selectedOperations, hnone] at hselected
    exact Except.ok.inj hselected
  have hfilter : o.operations.filter (·.name? = some name) = [p] := by
    rw [hall, ← hname]
    exact filter_name?_eq_singleton hdistinct hp
  have hone : { E with operationName? := some name }.selectedOperations o = .ok [p] := by
    simp only [selectedOperations, hfilter]
  have hscored : { E with operationName? := some name }.scoredOperations d = .ok [p] := by
    refine scoredOperations_eq_ok_iff.mpr ⟨o, ho, hone, ?_⟩
    intro q hq
    rw [List.mem_singleton.mp hq]
    exact hdepth p hp
  exact estimate_eq_ok_iff.mpr ⟨[p], hscored, rfl⟩

/-- Where the operations of a document have names of their own and the document has an estimate, so
has each operation by its name. The objects of the document are theirs together, as far as 64 bits
count; so is the cost, but for at most one point for each operation after the first. -/
theorem estimate_additive (E : Estimator) (d : Document) (names : List String) (m : Metrics)
    (hnames : d.operations.map Operation.name? = names.map some) (hdistinct : names.Nodup)
    (h : ({ E with operationName? := none }.estimate d).result = .ok m) :
    ∃ ms : List Metrics,
      List.Forall₂ (fun name part =>
        ({ E with operationName? := some name }.estimate d).result = .ok part) names ms ∧
      m.maxNode = min (2 ^ 64 - 1) (ms.map Metrics.maxNode).sum ∧
      min (ms.map Metrics.cost).sum ((2 ^ 64 - 1) / 100) ≤ m.cost ∧
      m.cost ≤ (ms.map Metrics.cost).sum + (names.length - 1) := by
  obtain ⟨os, hos, rfl⟩ := estimate_eq_ok_iff.mp h
  have hosNames : os.map Operation.name? = names.map some := by
    obtain ⟨o, ho, hselected, -⟩ := scoredOperations_eq_ok_iff.mp hos
    have hall : o.operations = os := Except.ok.inj hselected
    rw [← hall, Document.operationNames_of_expand ho, hnames]
  have hnodup : (os.map Operation.name?).Nodup := by
    rw [hosNames]
    exact hdistinct.map (Option.some_injective String)
  have hlength : os.length = names.length := by
    have hlengths := congrArg List.length hosNames
    rwa [List.length_map, List.length_map] at hlengths
  refine ⟨os.map fun p => E.metrics [p], ?_, ?_, ?_⟩
  · have hpaired : List.Forall₂ (fun name p => p ∈ os ∧ p.name? = some name) names os := by
      have heq : List.Forall₂ (· = ·) (os.map Operation.name?) (names.map some) := by
        rw [hosNames]
        exact List.forall₂_refl _
      rw [List.forall₂_map_left_iff, List.forall₂_map_right_iff] at heq
      exact ((List.forall₂_and_left _ _).mpr ⟨fun p hp => hp, heq⟩).flip
    refine List.forall₂_map_right_iff.mpr (hpaired.imp ?_)
    rintro name p ⟨hp, hname⟩
    exact estimate_named rfl hos hnodup hp hname
  · have hmax := metrics_maxNode_eq_sum { E with operationName? := none } os
    rw [hmax, clamp, Nat.min_comm, List.map_map]
    rfl
  · have hcost := metrics_cost_between { E with operationName? := none } os
    rw [hlength] at hcost
    rw [List.map_map]
    exact hcost

end Estimator

namespace Sample

/-- Two operations that cost half a point each. -/
def halfPoints : Document where
  definitions := [
    namedQuery "One" [page "users" ("first", .int 7) []],
    namedQuery "Other" [page "users" ("last", .var "n") [select "edges" [spread "Lost"]]]]

/-- Neither operation costs a point, but the document does. -/
theorem estimate_halfPoints_additive :
    ((pageEstimator 7 7).estimate halfPoints).result = .ok ⟨1, 14⟩ ∧
    ∃ ms : List Metrics,
      List.Forall₂ (fun name part =>
        ({ pageEstimator 7 7 with operationName? := some name }.estimate halfPoints).result =
          .ok part) ["One", "Other"] ms ∧
      14 = min (2 ^ 64 - 1) (ms.map Metrics.maxNode).sum ∧
      min (ms.map Metrics.cost).sum ((2 ^ 64 - 1) / 100) ≤ 1 ∧
      1 ≤ (ms.map Metrics.cost).sum + (2 - 1) := by
  have hwhole : ((pageEstimator 7 7).estimate halfPoints).result = .ok ⟨1, 14⟩ := by cbv
  exact ⟨hwhole, Estimator.estimate_additive (pageEstimator 7 7) halfPoints ["One", "Other"] ⟨1, 14⟩
    rfl (by decide) hwhole⟩

end Sample

end QueryTariff
