import QueryTariff.Proofs.Estimate.Outcome

/-!
Asking for one score or for both. Which operations are walked, and why a walk ends early, is the
same for every scorer (`total_result`), so both scores together are the two single ones, and all
three fail together and for one reason (`entryPoints_agree`).
-/

namespace QueryTariff

/-- Both scores are the single ones, and there is one reason for all three to fail. -/
structure ScoresAgree (both : Except EstimateError Metrics)
    (cost maxNode : Except EstimateError Nat) : Prop where
  ok_iff : ∀ c m, both = .ok ⟨c, m⟩ ↔ cost = .ok c ∧ maxNode = .ok m
  cost_iff : ∀ e, both = .error e ↔ cost = .error e
  maxNode_iff : ∀ e, cost = .error e ↔ maxNode = .error e

namespace ScoresAgree

variable {α : Type}

theorem of_error (e : EstimateError) : ScoresAgree (.error e) (.error e) (.error e) :=
  ⟨fun _ _ => ⟨nofun, nofun⟩, fun _ => by simp, fun _ => by simp⟩

theorem of_map (x : Except EstimateError α) (c m : α → Nat) :
    ScoresAgree (do return ⟨← x.map c, ← x.map m⟩) (x.map c) (x.map m) := by
  cases x with
  | error e => exact of_error e
  | ok a =>
    have hok (c' m' : Nat) : (.ok ⟨c a, m a⟩ : Except EstimateError Metrics) = .ok ⟨c', m'⟩ ↔
        (.ok (c a) : Except EstimateError Nat) = .ok c' ∧
          (.ok (m a) : Except EstimateError Nat) = .ok m' := by simp
    exact ⟨hok, fun _ => ⟨nofun, nofun⟩, fun _ => ⟨nofun, nofun⟩⟩

theorem of_bind (x : Except EstimateError α) {both : α → Except EstimateError Metrics}
    {cost maxNode : α → Except EstimateError Nat}
    (h : ∀ a, ScoresAgree (both a) (cost a) (maxNode a)) :
    ScoresAgree (x >>= both) (x >>= cost) (x >>= maxNode) := by
  cases x with
  | error e => exact of_error e
  | ok a => exact h a

end ScoresAgree

namespace Estimator

theorem scoresAgree_estimate (E : Estimator) (d : Document) :
    ScoresAgree (E.estimate d).result ((E.expand d).result >>= fun o => (E.costOfExpanded o).result)
      ((E.expand d).result >>= fun o => (E.maxNodeOfExpanded o).result) := by
  simp only [estimate, Logged.result_bind]
  refine .of_bind _ fun o => ?_
  rw [costOfExpanded_result, maxNodeOfExpanded_result]
  exact .of_map _ _ _

theorem scoresAgree_read (E : Estimator) (read : Logged EstimateError Document) :
    ScoresAgree (read >>= E.estimate).result
      (read >>= fun d => E.expand d >>= E.costOfExpanded).result
      (read >>= fun d => E.expand d >>= E.maxNodeOfExpanded).result := by
  simp only [Logged.result_bind]
  exact .of_bind _ fun d => E.scoresAgree_estimate d

/-- Both scores of a text are its cost and its objects, asked for one by one, and where there is an
error it is the same for all three. So it is in whatever way texts are read. -/
theorem entryPoints_agree (E : Estimator) (text : String) :
    ScoresAgree (E.estimateText text).result (E.cost text).result (E.maxNode text).result ∧
    ∀ read : String → Logged EstimateError Document,
      ScoresAgree (read text >>= E.estimate).result
        (read text >>= fun d => E.expand d >>= E.costOfExpanded).result
        (read text >>= fun d => E.expand d >>= E.maxNodeOfExpanded).result :=
  ⟨E.scoresAgree_read (parse text), fun read => E.scoresAgree_read (read text)⟩

def pageText : String := "{ users(first: 50) { edges { node { users(last: 3) } } } }"

/-- What the text is read as; all of it stands in one line. -/
def pageTextDocument : Document where
  definitions := [.operation ⟨none, across 1 58, [
    .field (named "users" 3 [("first", .int 50)]) (across 20 56) [
      .field (named "edges" 22 []) (across 28 54) [
        .field (named "node" 30 []) (across 35 52) [
          .field (named "users" 37 [("last", .int 3)]) (across 37 37) []]]]]⟩]
where
  across (opening closing : Nat) : Span := ⟨⟨1, opening⟩, ⟨1, closing⟩⟩
  named (name : String) (column : Nat) (arguments : Arguments) : FieldHead :=
    ⟨⟨1, column⟩, none, name, arguments, []⟩

theorem parse_pageText : Document.parse pageText = .ok pageTextDocument := by
  rw [← Logged.toOption_eq_some_iff]
  decide +kernel

example : (pagedEstimator.estimateText pageText).result = .ok ⟨14, 200⟩ ∧
    (pagedEstimator.cost pageText).result = .ok 14 ∧
    (pagedEstimator.maxNode pageText).result = .ok 200 := by
  simp only [estimateText, cost, maxNode, parse, parse_pageText]
  cbv

example :
    ({ pagedEstimator with maxDepth := 3 }.estimateText pageText).result =
      .error (.nestingTooDeep 3) ∧
    ({ pagedEstimator with maxDepth := 3 }.cost pageText).result = .error (.nestingTooDeep 3) ∧
    ({ pagedEstimator with maxDepth := 3 }.maxNode pageText).result =
      .error (.nestingTooDeep 3) := by
  simp only [estimateText, cost, maxNode, parse, parse_pageText]
  cbv

end Estimator

end QueryTariff
