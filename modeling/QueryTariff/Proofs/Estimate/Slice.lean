import QueryTariff.Proofs.Estimate.Monotone
import QueryTariff.Proofs.Expansion.Slice

/-!
Estimates of one operation. Where the operations of one name are asked for, the others and all
fragments that these do not lead to can be left out: they take their share of the selections that
may be expanded, but they add nothing to the scores (`estimate_slice`).
-/

namespace QueryTariff

namespace Estimator

variable {E : Estimator} {d o o' : Document} {name : String} {os : List Operation}

/-- The operations of a name are selected from them alone as from all. -/
theorem selectedOperations_of_filter (hE : E.operationName? = some name)
    (h : o'.operations = o.operations.filter (·.name? = some name)) :
    E.selectedOperations o' = E.selectedOperations o := by
  have hnamed : o'.operations.filter (·.name? = some name) =
      o.operations.filter (·.name? = some name) := by
    rw [h, List.filter_filter]
    simp only [Bool.and_self]
  simp only [selectedOperations, hE, hnamed]

theorem scoredOperations_slice (hE : E.operationName? = some name)
    (h : E.scoredOperations d = .ok os) : E.scoredOperations (d.slice name) = .ok os := by
  obtain ⟨o, ho, hos, hdepth⟩ := scoredOperations_eq_ok_iff.mp h
  obtain ⟨o', ho', hoperations⟩ := Document.expand_slice name ho
  rw [← selectedOperations_of_filter hE hoperations] at hos
  exact scoredOperations_eq_ok_iff.mpr ⟨o', ho', hos, hdepth⟩

/-- Where the operations of a name have an estimate, they have the same one without the other
operations, the fragments that they do not lead to, and all but the first fragments of a name. -/
theorem estimate_slice (E : Estimator) (d : Document) (name : String) (m : Metrics)
    (h : ({ E with operationName? := some name }.estimate d).result = .ok m) :
    ({ E with operationName? := some name }.estimate (d.slice name)).result = .ok m := by
  obtain ⟨os, hos, rfl⟩ := estimate_eq_ok_iff.mp h
  exact estimate_eq_ok_iff.mpr ⟨os, scoredOperations_slice rfl hos, rfl⟩

end Estimator

namespace Sample

def namedQuery (name : String) (items : List Selection) : Definition :=
  .operation ⟨some ⟨.query, .start, some name, [], []⟩, span, items⟩

/-- Two operations, a fragment that only the second leads to, and a name given twice. -/
def twoQueries : Document where
  definitions := [
    namedQuery "Pages" [page "users" ("first", .int 10)
      [select "edges" [select "node" [spread "Inner", spread "Lost"]]]],
    fragment "Inner" "User" [page "users" ("last", .var "n") [select "edges" []]],
    namedQuery "Others" [spread "Outer", page "users" ("first", .int 500) []],
    fragment "Inner" "User" [page "users" ("last", .int 500) []],
    fragment "Outer" "Query" [page "users" ("first", .int 20) [spread "Inner"]]]

/-- The first query leads to the first of the fragments alone. -/
theorem estimate_slice_twoQueries :
    (twoQueries.slice "Pages").definitions = twoQueries.definitions.take 2 ∧
    ({ pageEstimator 10 7 with operationName? := some "Pages" }.estimate twoQueries).result =
      .ok ⟨7, 110⟩ ∧
    ({ pageEstimator 10 7 with operationName? := some "Pages" }.estimate
      (twoQueries.slice "Pages")).result = .ok ⟨7, 110⟩ := by
  have hslice : (twoQueries.slice "Pages").definitions = twoQueries.definitions.take 2 := by cbv
  have h : ({ pageEstimator 10 7 with operationName? := some "Pages" }.estimate
      twoQueries).result = .ok ⟨7, 110⟩ := by cbv
  exact ⟨hslice, h, Estimator.estimate_slice (pageEstimator 10 7) twoQueries "Pages" _ h⟩

end Sample

end QueryTariff
