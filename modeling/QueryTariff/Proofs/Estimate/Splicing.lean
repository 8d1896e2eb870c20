import QueryTariff.Proofs.Estimate.Alike
import QueryTariff.Proofs.Estimate.Monotone
import QueryTariff.Proofs.Expansion.Success
import QueryTariff.Proofs.Walk.Splicing

/-!
Estimates without inline fragments that change no type. Once a document is expanded, each of them
can give way to its own selections, and the scores stay as they are (`estimate_of_spliced`).
-/

namespace QueryTariff

open Selection

/-! ### Documents -/

/-- In the operations of the second document some inline fragments have given way to their own
selections. -/
abbrev Document.Spliced (S : Schema) : Document → Document → Prop :=
  Document.Corresponds (Operation.Spliced S) (fun f f' => f' = f)

namespace Selection.Spliced

variable {S : Schema} {chain : List Ancestor} {items items' : List Selection}

theorem count_le (h : Spliced S chain items items') : count items' ≤ count items := by
  induction h with
  | nil => exact Nat.le_refl _
  | field _ _ _ _ ihBody ihRest =>
    rw [count, count]
    omega
  | spread _ _ _ _ ih =>
    rw [count, count]
    omega
  | inlineFragment _ _ _ _ _ _ ihBody ihRest =>
    rw [count, count]
    omega
  | splice _ _ _ _ _ _ ihBody ihRest =>
    rw [count_append, count]
    omega

theorem spreadNames_eq (h : Spliced S chain items items') :
    spreadNames items' = spreadNames items := by
  induction h with
  | nil => rfl
  | field _ _ _ _ ihBody ihRest => rw [spreadNames, spreadNames, ihBody, ihRest]
  | spread _ _ _ _ ih => rw [spreadNames, spreadNames, ih]
  | inlineFragment _ _ _ _ _ _ ihBody ihRest => rw [spreadNames, spreadNames, ihBody, ihRest]
  | splice _ _ _ _ _ _ ihBody ihRest => rw [spreadNames_append, spreadNames, ihBody, ihRest]

end Selection.Spliced

namespace Document.Spliced

variable {S : Schema} {o o' : Document}

theorem selectionCount_le (h : o.Spliced S o') : o'.selectionCount ≤ o.selectionCount := by
  refine Definition.selectionCount_le_of_forall₂ ?_ h
  intro x y hxy
  cases hxy with
  | operation hp => exact hp.items.count_le
  | fragment hf => rw [hf]

theorem expanded (h : o.Spliced S o') (ho : o.Expanded) : o'.Expanded := by
  intro y hy n hn
  obtain ⟨x, hx, hxy⟩ := exists_left_of_mem_forall₂ h hy
  have hnames : spreadNames y.body.items = spreadNames x.body.items := by
    cases hxy with
    | operation hp => exact hp.items.spreadNames_eq
    | fragment hf => rw [hf]
  rw [hnames] at hn
  exact h.fragment?_of_none (fun _ _ hf => congrArg Fragment.name hf) (ho x hx n hn)

/-- Nothing is left to expand. -/
theorem expand_eq_self (h : o.Spliced S o') {d : Document} {limit : Nat}
    (ho : (d.expand limit).result = .ok o) : (o'.expand limit).result = .ok o' := by
  obtain ⟨hfull, hlimit, -⟩ := (expand_eq_ok_iff d o limit).mp ho
  have hcount := h.selectionCount_le
  exact expand_of_expanded (h.expanded hfull.expanded) (by omega)

end Document.Spliced

/-! ### Estimates -/

namespace Estimator

variable {E : Estimator} {d o o' : Document} {m : Metrics}

/-- An estimate is an expansion and two scores of what it gives. -/
theorem estimate_eq_ok_iff_scores :
    (E.estimate d).result = .ok m ↔ ∃ o, (d.expand E.maxSelections).result = .ok o ∧
      (E.costOfExpanded o).result = .ok m.cost ∧ (E.maxNodeOfExpanded o).result = .ok m.maxNode := by
  simp only [estimate, expand, Logged.result_bind_eq_ok, Logged.result_mapError_eq_ok]
  constructor
  · rintro ⟨o, ho, cost, hcost, maxNode, hmaxNode, hm⟩
    cases hm
    exact ⟨o, ho, hcost, hmaxNode⟩
  · rintro ⟨o, ho, hcost, hmaxNode⟩
    exact ⟨o, ho, m.cost, hcost, m.maxNode, hmaxNode, rfl⟩

theorem total_of_spliced (hs : o.Spliced E.schema o') (scorer : Scorer Nat) {n : Nat}
    (h : (E.total scorer o).result = .ok n) : (E.total scorer o').result = .ok n := by
  rw [total, Logged.result_bind_eq_ok] at h ⊢
  obtain ⟨os, hos, hwalk⟩ := h
  rw [Logged.result_silent] at hos
  rw [Logged.result_mapError_eq_ok] at hwalk
  rcases E.selectedOperations_of_forall₂ (fun _ _ hp => hp.name?) hs.operations with
    ⟨os₁, os', hos₁, hos', hforall⟩ | ⟨e, he, -⟩
  · rw [hos] at hos₁
    cases hos₁
    refine ⟨os', hos', ?_⟩
    rw [Logged.result_mapError_eq_ok]
    exact E.walker.walkAll_of_spliced scorer hforall hwalk
  · rw [hos] at he
    cases he

/-- Where a document has an estimate, take its expansion and put the selections of inline fragments
in their places, of as many as do not change the type around them: both scores stay as they are.
The inline fragments that do not change it are those without a condition, those where no type is
known, and those whose condition names nothing that narrows or the type around. -/
theorem estimate_of_spliced (E : Estimator) (d o o' : Document) (m : Metrics)
    (h : (E.estimate d).result = .ok m) (ho : (d.expand E.maxSelections).result = .ok o)
    (hs : o.Spliced E.schema o') :
    (E.costOfExpanded o').result = .ok m.cost ∧ (E.maxNodeOfExpanded o').result = .ok m.maxNode ∧
      (E.estimate o').result = .ok m ∧
      ∀ chain on?, enclosingType E.schema (chain ++ [.inlineFragment on?]) =
          enclosingType E.schema chain ↔
        on? = none ∨ enclosingType E.schema chain = none ∨ ∃ on, on? = some on ∧
          ((E.schema.type? on).filter NamedType.isComposite = none ∨
            E.schema.type? on = enclosingType E.schema chain) := by
  obtain ⟨o₁, ho₁, hcost, hmaxNode⟩ := estimate_eq_ok_iff_scores.mp h
  rw [ho] at ho₁
  cases ho₁
  have hcost' : (E.costOfExpanded o').result = .ok m.cost := by
    rw [costOfExpanded, Logged.result_bind_eq_ok] at hcost ⊢
    obtain ⟨units, hunits, hpoints⟩ := hcost
    exact ⟨units, total_of_spliced hs _ hunits, hpoints⟩
  have hmaxNode' : (E.maxNodeOfExpanded o').result = .ok m.maxNode :=
    total_of_spliced hs _ hmaxNode
  have hestimate' : (E.estimate o').result = .ok m :=
    estimate_eq_ok_iff_scores.mpr ⟨o', hs.expand_eq_self ho, hcost', hmaxNode'⟩
  exact ⟨hcost', hmaxNode', hestimate', enclosingType_inlineFragment_eq_iff E.schema⟩

end Estimator

namespace Sample

/-- The page within a page, with its fragment in two places. -/
def pageInPageExpanded : Document where
  definitions := [
    query [page "users" ("first", .int 10)
      [select "edges" [select "node" [into "User" [inner], into "User" [inner]]]]],
    fragment "Inner" "User" [inner]]
where
  inner : Selection := page "users" ("last", .var "n") [select "edges" []]

/-- The first inline fragment is taken apart. -/
def pageInPageSpliced : Document where
  definitions := [
    query [page "users" ("first", .int 10)
      [select "edges" [select "node" [pageInPageExpanded.inner,
        into "User" [pageInPageExpanded.inner]]]]],
    fragment "Inner" "User" [pageInPageExpanded.inner]]

theorem spliced_pageInPage :
    pageInPageExpanded.Spliced Estimator.pagedSchema pageInPageSpliced := by
  have hrefl := Selection.spliced_refl Estimator.pagedSchema
  -- What the inline fragment stands in is a `User`.
  have htype : enclosingType Estimator.pagedSchema ([.operation .query, .field "users",
      .field "edges", .field "node"] ++ [.inlineFragment (some "User")]) =
      enclosingType Estimator.pagedSchema [.operation .query, .field "users", .field "edges",
        .field "node"] := by
    rw [enclosingType_inlineFragment_eq_iff]
    exact .inr (.inr ⟨"User", rfl, .inr rfl⟩)
  have hnode := Selection.Spliced.splice .start [] span htype
    (hrefl _ [pageInPageExpanded.inner]) (hrefl _ [into "User" [pageInPageExpanded.inner]])
  refine .cons (.operation ⟨rfl, ?_⟩) (.cons (.fragment rfl) .nil)
  exact .field _ _ (.field _ _ (.field _ _ hnode .nil) .nil) .nil

theorem estimate_pageInPageSpliced :
    ((pageEstimator 10 7).estimate (pageInPage 10)).result = .ok ⟨14, 210⟩ ∧
    ((pageInPage 10).expand 100000).result = .ok pageInPageExpanded ∧
    pageInPageExpanded.Spliced Estimator.pagedSchema pageInPageSpliced ∧
    ((pageEstimator 10 7).costOfExpanded pageInPageSpliced).result = .ok 14 ∧
    ((pageEstimator 10 7).maxNodeOfExpanded pageInPageSpliced).result = .ok 210 ∧
    ((pageEstimator 10 7).estimate pageInPageSpliced).result = .ok ⟨14, 210⟩ := by
  have hexpand : ((pageInPage 10).expand 100000).result = .ok pageInPageExpanded := by cbv
  obtain ⟨hcost, hmaxNode, hestimate, -⟩ := Estimator.estimate_of_spliced (pageEstimator 10 7) _ _
    _ _ estimate_pageInPage hexpand spliced_pageInPage
  exact ⟨estimate_pageInPage, hexpand, spliced_pageInPage, hcost, hmaxNode, hestimate⟩

end Sample

end QueryTariff
