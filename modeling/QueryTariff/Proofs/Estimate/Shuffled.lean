import QueryTariff.Proofs.Estimate.Slice
import QueryTariff.Proofs.Expansion.Shuffled

/-!
Estimates in another order. Neither the order of selections nor that of definitions makes a
difference to an estimate, as long as each name stands for the same fragment
(`estimate_of_shuffled`): the fields to score are the same in another order, and sums do not depend
on it.
-/

namespace QueryTariff

namespace Selection

theorem nesting_cons (x : Selection) (rest : List Selection) :
    nesting (x :: rest) = max (nesting [x]) (nesting rest) := nesting_append [x] rest

theorem Swapped.isEmpty {items items' : List Selection} (h : Swapped items items') :
    items'.isEmpty = items.isEmpty := by
  cases h <;> rfl

theorem Swapped.nesting {items items' : List Selection} (h : Swapped items items') :
    Selection.nesting items' = Selection.nesting items := by
  induction h with
  | here x y rest =>
    rw [nesting_cons y (x :: rest), nesting_cons x rest, nesting_cons x (y :: rest),
      nesting_cons y rest]
    omega
  | @later x rest rest' _ ih => rw [nesting_cons x rest', nesting_cons x rest, ih]
  | field h sp rest hbody ih => rw [Selection.nesting, Selection.nesting, hbody.isEmpty, ih]
  | inlineFragment p on? ds sp rest _ ih => rw [Selection.nesting, Selection.nesting, ih]

theorem Shuffled.nesting {items items' : List Selection} (h : Shuffled items items') :
    Selection.nesting items' = Selection.nesting items :=
  h.eq_of_swapped Swapped.nesting

end Selection

theorem occurrencesBelow_cons (kind : OperationKind) (above : List Enclosure) (x : Selection)
    (rest : List Selection) :
    occurrencesBelow kind above (x :: rest) =
      occurrencesBelow kind above [x] ++ occurrencesBelow kind above rest :=
  occurrencesBelow_append kind above [x] rest

/-- Each field stays where it stands: a swap changes only which comes first. -/
theorem occurrencesBelow_of_swapped (kind : OperationKind) {items items' : List Selection}
    (h : Selection.Swapped items items') (above : List Enclosure) :
    (occurrencesBelow kind above items').Perm (occurrencesBelow kind above items) := by
  induction h generalizing above with
  | here x y rest =>
    rw [occurrencesBelow_cons kind above y (x :: rest), occurrencesBelow_cons kind above x rest,
      occurrencesBelow_cons kind above x (y :: rest), occurrencesBelow_cons kind above y rest]
    exact List.perm_append_comm_assoc _ _ _
  | @later x rest rest' _ ih =>
    rw [occurrencesBelow_cons kind above x rest', occurrencesBelow_cons kind above x rest]
    exact (ih above).append_left _
  | field h sp rest _ ih =>
    rw [occurrencesBelow, occurrencesBelow]
    exact ((ih _).append_right _).cons _
  | inlineFragment p on? ds sp rest _ ih =>
    rw [occurrencesBelow, occurrencesBelow]
    exact (ih _).append_right _

theorem occurrencesBelow_of_shuffled (kind : OperationKind) {items items' : List Selection}
    (h : Selection.Shuffled items items') (above : List Enclosure) :
    (occurrencesBelow kind above items').Perm (occurrencesBelow kind above items) := by
  induction h with
  | refl => exact List.Perm.refl _
  | tail _ hswap ih => exact (occurrencesBelow_of_swapped kind hswap above).trans ih

namespace Operation.Shuffled

variable {o o' : Operation}

theorem kind (h : o.Shuffled o') : o'.kind = o.kind :=
  Operation.kind_congr h.head?

theorem name? (h : o.Shuffled o') : o'.name? = o.name? :=
  Operation.name?_congr h.head?

theorem occurrences (h : o.Shuffled o') : o'.occurrences.Perm o.occurrences := by
  rw [Operation.occurrences, Operation.occurrences, h.kind]
  exact occurrencesBelow_of_shuffled o.kind h.items []

end Operation.Shuffled

theorem occurrencesOf_of_perm {os os' : List Operation} (h : os'.Perm os) :
    (occurrencesOf os').Perm (occurrencesOf os) :=
  h.flatMap_right Operation.occurrences

theorem occurrencesOf_of_shuffled {os os' : List Operation}
    (h : List.Forall₂ Operation.Shuffled os os') :
    (occurrencesOf os').Perm (occurrencesOf os) := by
  induction h with
  | nil => exact List.Perm.refl _
  | cons hp _ ih =>
    simp only [occurrencesOf, List.flatMap_cons] at ih ⊢
    exact hp.occurrences.append ih

namespace Estimator

variable {E : Estimator} {d d' o o' : Document} {os : List Operation} {m : Metrics}

theorem metrics_of_occurrences_perm (E : Estimator) {os os' : List Operation}
    (h : (occurrencesOf os').Perm (occurrencesOf os)) : E.metrics os' = E.metrics os := by
  have hunits : E.units os' = E.units os := (h.map _).sum_eq
  have hobjects : E.objects os' = E.objects os := (h.map _).sum_eq
  rw [metrics, metrics, hunits, hobjects]

theorem selectedOperations_of_perm (hperm : o'.operations.Perm o.operations)
    (h : E.selectedOperations o = .ok os) :
    ∃ os', E.selectedOperations o' = .ok os' ∧ os'.Perm os := by
  unfold selectedOperations at h ⊢
  cases hname : E.operationName? with
  | none =>
    rw [hname] at h
    cases h
    exact ⟨o'.operations, rfl, hperm⟩
  | some name =>
    rw [hname] at h
    dsimp only at h ⊢
    have hnamed : (o'.operations.filter (·.name? = some name)).Perm
        (o.operations.filter (·.name? = some name)) := hperm.filter _
    generalize o.operations.filter (·.name? = some name) = named at h hnamed
    generalize o'.operations.filter (·.name? = some name) = named' at hnamed ⊢
    cases named with
    | nil => cases h
    | cons p ps =>
      cases h
      cases named' with
      | nil => exact absurd hnamed.symm.eq_nil (List.cons_ne_nil p ps)
      | cons q qs => exact ⟨q :: qs, rfl, hnamed⟩

theorem estimate_of_reordered (hd : d.Reordered d') (h : (E.estimate d).result = .ok m) :
    (E.estimate d').result = .ok m := by
  obtain ⟨os, hos, rfl⟩ := estimate_eq_ok_iff.mp h
  obtain ⟨o, ho, hselected, hdepth⟩ := scoredOperations_eq_ok_iff.mp hos
  obtain ⟨o', ho', hperm⟩ := Document.expand_of_reordered hd ho
  obtain ⟨os', hos', hosPerm⟩ := selectedOperations_of_perm (hperm.filterMap _) hselected
  have hscored : E.scoredOperations d' = .ok os' := by
    refine scoredOperations_eq_ok_iff.mpr ⟨o', ho', hos', ?_⟩
    intro p hp
    exact hdepth p (hosPerm.mem_iff.mp hp)
  have hmetrics := E.metrics_of_occurrences_perm (occurrencesOf_of_perm hosPerm)
  exact estimate_eq_ok_iff.mpr ⟨os', hscored, hmetrics.symm⟩

theorem estimate_of_selectionsShuffled (hd : d.SelectionsShuffled d')
    (h : (E.estimate d).result = .ok m) : (E.estimate d').result = .ok m := by
  obtain ⟨os, hos, rfl⟩ := estimate_eq_ok_iff.mp h
  obtain ⟨o, ho, hselected, hdepth⟩ := scoredOperations_eq_ok_iff.mp hos
  obtain ⟨o', ho', hshuffled⟩ := Document.expand_of_shuffled hd ho
  have hboth := E.selectedOperations_of_forall₂ (fun _ _ hp => hp.name?) hshuffled.operations
  rcases hboth with ⟨ps, os', hps, hos', hforall⟩ | ⟨e, he, -⟩
  · rw [hselected] at hps
    cases hps
    have hscored : E.scoredOperations d' = .ok os' := by
      refine scoredOperations_eq_ok_iff.mpr ⟨o', ho', hos', ?_⟩
      intro p' hp'
      obtain ⟨p, hp, hpp'⟩ := exists_left_of_mem_forall₂ hforall hp'
      rw [hpp'.items.nesting]
      exact hdepth p hp
    have hmetrics := E.metrics_of_occurrences_perm (occurrencesOf_of_shuffled hforall)
    exact estimate_eq_ok_iff.mpr ⟨os', hscored, hmetrics.symm⟩
  · rw [hselected] at he
    cases he

/-- A document that has an estimate has the same one with its selections in another order, at any
depth, and its definitions in another order, as long as each name stands for the same fragment. -/
theorem estimate_of_shuffled (E : Estimator) (d d' : Document) (m : Metrics) (hd : d.Shuffled d')
    (h : (E.estimate d).result = .ok m) : (E.estimate d').result = .ok m := by
  obtain ⟨d₁, hreordered, hshuffled⟩ := hd
  exact estimate_of_selectionsShuffled hshuffled (estimate_of_reordered hreordered h)

end Estimator

namespace Sample

def usersOfUser : Selection := page "users" ("last", .var "n") [select "edges" []]

/-- A name given twice, and a name not given at all. -/
def oneOrder : Document where
  definitions := [
    namedQuery "Pages" [page "users" ("first", .int 10)
      [select "edges" [select "node" [spread "Inner", spread "Lost"]]]],
    fragment "Inner" "User" [usersOfUser, select "name" []],
    fragment "Inner" "User" [page "users" ("last", .int 500) []]]

/-- The fragments come first, and the selections next to others have changed places with them. -/
def otherOrder : Document where
  definitions := [
    fragment "Inner" "User" [select "name" [], usersOfUser],
    fragment "Inner" "User" [page "users" ("last", .int 500) []],
    namedQuery "Pages" [page "users" ("first", .int 10)
      [select "edges" [select "node" [spread "Lost", spread "Inner"]]]]]

theorem shuffled_oneOrder : oneOrder.Shuffled otherOrder := by
  have hinner : Selection.Shuffled [usersOfUser, select "name" []]
      [select "name" [], usersOfUser] := .of_perm (.swap _ _ [])
  have hspreads : Selection.Shuffled [spread "Inner", spread "Lost"]
      [spread "Lost", spread "Inner"] := .of_perm (.swap _ _ [])
  refine ⟨⟨oneOrder.definitions.tail ++ oneOrder.definitions.take 1⟩, ⟨?_, fun _ => rfl⟩, ?_⟩
  · exact List.perm_append_singleton _ _
  · refine .cons (.fragment ⟨rfl, rfl, rfl, rfl, rfl, hinner⟩) ?_
    refine .cons (.fragment ⟨rfl, rfl, rfl, rfl, rfl, .refl⟩) ?_
    refine .cons (.operation ⟨rfl, rfl, ?_⟩) .nil
    exact ((hspreads.field _ span .refl).field _ span .refl).field _ span .refl

theorem estimate_otherOrder :
    ((pageEstimator 10 7).estimate oneOrder).result = .ok ⟨7, 110⟩ ∧
    ((pageEstimator 10 7).estimate otherOrder).result = .ok ⟨7, 110⟩ := by
  have h : ((pageEstimator 10 7).estimate oneOrder).result = .ok ⟨7, 110⟩ := by cbv
  exact ⟨h, Estimator.estimate_of_shuffled _ _ _ _ shuffled_oneOrder h⟩

end Sample

end QueryTariff
