import QueryTariff.Proofs.Estimate.PageOrder
import QueryTariff.Proofs.Expansion.FullExpansion

/-!
Larger numbers, larger scores. Raising page sizes, in a document or in the bindings, and raising
weights changes nothing about whether there is an estimate, and lowers neither score
(`estimate_mono`).
-/

namespace QueryTariff

/-- An integer stays, or one that is not negative gives way to one at least as large. -/
def IntegerRaised (n m : Int) : Prop := m = n ∨ 0 ≤ n ∧ n ≤ m

/-- The same names are bound, each to an integer that stays or is raised. -/
def Bindings.RaisedTo (V V' : Bindings) : Prop :=
  ∀ x, Option.Rel IntegerRaised (V.get? x) (V'.get? x)

/-- An argument stays, or it is `first` or `last` and its integer is raised. -/
inductive ArgumentRaised : String × Value → String × Value → Prop
  | same (a : String × Value) : ArgumentRaised a a
  | page {name : String} {n m : Int} : isPageArgument name = true → 0 ≤ n → n ≤ m →
    ArgumentRaised (name, .int n) (name, .int m)

structure FieldHead.RaisedTo (h h' : FieldHead) : Prop where
  name : h'.name = h.name
  arguments : List.Forall₂ ArgumentRaised h.arguments h'.arguments

variable {V V' : Bindings}

theorem ArgumentRaised.name {a a' : String × Value} (h : ArgumentRaised a a') : a'.1 = a.1 := by
  cases h <;> rfl

theorem ArgumentRaised.integer? (hV : Bindings.RaisedTo V V') {a a' : String × Value}
    (h : ArgumentRaised a a') :
    Option.Rel IntegerRaised (integer? V a.2) (integer? V' a'.2) := by
  cases h with
  | page _ hn hnm => exact .some (.inr ⟨hn, hnm⟩)
  | same =>
    cases a.2 with
    | var x => exact hV x
    | int n => exact .some (.inl rfl)
    | _ => exact .none

theorem natural?_of_raised {n m : Int} (h : IntegerRaised n m) :
    Option.Rel (· ≤ ·) (natural? n) (natural? m) := by
  rcases h with rfl | ⟨hn, hnm⟩
  · cases natural? m with
    | none => exact .none
    | some p => exact .some (Nat.le_refl p)
  · have hm : 0 ≤ m := by omega
    rw [natural?, natural?, if_pos hn, if_pos hm]
    exact .some (by omega)

theorem pageArgument?_of_raised {as as' : Arguments} (h : List.Forall₂ ArgumentRaised as as') :
    Option.Rel ArgumentRaised (pageArgument? as) (pageArgument? as') := by
  unfold pageArgument?
  induction h with
  | nil => exact .none
  | @cons a a' as as' ha _ ih =>
    rw [List.find?_cons, List.find?_cons, ha.name]
    cases isPageArgument a.1 with
    | true => exact .some ha
    | false => exact ih

/-- Raised integers make raised page sizes, and none where there was none. -/
theorem pageSize_of_raised (hV : Bindings.RaisedTo V V') {h h' : FieldHead}
    (hh : FieldHead.RaisedTo h h') :
    Option.Rel (· ≤ ·) (pageSize V h.arguments) (pageSize V' h'.arguments) := by
  have hargument := pageArgument?_of_raised hh.arguments
  unfold pageSize
  generalize pageArgument? h.arguments = a? at hargument ⊢
  generalize pageArgument? h'.arguments = a?' at hargument ⊢
  cases hargument with
  | none => exact .none
  | @some a a' ha =>
    have hinteger := ha.integer? hV
    show Option.Rel (· ≤ ·) ((integer? V a.2).bind natural?) ((integer? V' a'.2).bind natural?)
    generalize integer? V a.2 = n? at hinteger ⊢
    generalize integer? V' a'.2 = m? at hinteger ⊢
    cases hinteger with
    | none => exact .none
    | some hnm => exact natural?_of_raised hnm

section occurrences

variable {f f' : Occurrence}

theorem Occurrence.Alike.pageAtMost (hV : Bindings.RaisedTo V V')
    (h : Occurrence.Alike FieldHead.RaisedTo f f') :
    Occurrence.Alike (FieldHead.PageAtMost V V') f f' :=
  h.mono fun _ _ hh => ⟨hh.name, .ofRel (pageSize_of_raised hV hh)⟩

theorem Occurrence.objects_le_of_raised (hV : Bindings.RaisedTo V V')
    (h : Occurrence.Alike FieldHead.RaisedTo f f') (S : Schema) :
    f.objects S V ≤ f'.objects S V' := by
  have hsome : ∀ h h', FieldHead.RaisedTo h h' → h'.name = h.name ∧
      (pageSize V' h'.arguments).isSome = (pageSize V h.arguments).isSome := by
    intro h h' hh
    refine ⟨hh.name, ?_⟩
    have hpage := pageSize_of_raised hV hh
    generalize pageSize V h.arguments = p? at hpage ⊢
    generalize pageSize V' h'.arguments = q? at hpage ⊢
    cases hpage <;> rfl
  apply Occurrence.objects_le_of_alike (h.pageAtMost hV) S
  intro _ hrepeats
  rwa [h.repeatsObjects hsome] at hrepeats

end occurrences

namespace Estimator

/-- Raise page sizes where they are not negative, and weights: an estimate fails as before or gives
scores at least as large. -/
theorem estimate_mono (E : Estimator) (V' : Bindings) (w' : Weights) (d d' : Document)
    (hd : d.Alike FieldHead.RaisedTo d') (hV : Bindings.RaisedTo E.bindings V')
    (hw : ∀ type, E.weights.weight type ≤ w'.weight type) :
    (∀ e, (E.estimate d).result = .error e ↔
      ({ E with bindings := V', weights := w' }.estimate d').result = .error e) ∧
    ∀ m m', (E.estimate d).result = .ok m →
      ({ E with bindings := V', weights := w' }.estimate d').result = .ok m' →
      m.cost ≤ m'.cost ∧ m.maxNode ≤ m'.maxNode := by
  have hscored : { E with bindings := V', weights := w' }.scoredOperations d' =
      E.scoredOperations d' := rfl
  rw [estimate_result, estimate_result, hscored]
  rcases E.scoredOperations_of_alike hd with ⟨os, os', hos, hos', halike⟩ | ⟨e, he, he'⟩
  · have hoccurrences := occurrencesOf_of_alike halike
    have hunits : E.units os ≤ { E with bindings := V', weights := w' }.units os' := by
      apply List.Forall₂.sum_le_sum
      refine List.rel_map (fun f f' hf => ?_) hoccurrences
      exact Occurrence.units_le_of_alike (hf.pageAtMost hV) E.schema hw
    have hobjects : E.objects os ≤ { E with bindings := V', weights := w' }.objects os' := by
      apply List.Forall₂.sum_le_sum
      refine List.rel_map (fun f f' hf => ?_) hoccurrences
      exact Occurrence.objects_le_of_raised hV hf E.schema
    rw [hos, hos']
    refine ⟨fun e => ⟨nofun, nofun⟩, ?_⟩
    rintro m m' ⟨rfl⟩ ⟨rfl⟩
    exact ⟨metrics_cost_le hunits, Saturating.clamp_le_clamp hobjects⟩
  · rw [he, he']
    refine ⟨fun e => Iff.rfl, ?_⟩
    rintro m m' ⟨⟩

end Estimator

namespace Sample

def page (name : String) (size : String × Value) (items : List Selection) : Selection :=
  .field ⟨.start, none, name, [size], []⟩ span items

/-- A page within a page; the inner one is in a fragment and takes its size from a variable. -/
def pageInPage (first : Int) : Document where
  definitions := [
    query [page "users" ("first", .int first)
      [select "edges" [select "node" [spread "Inner", spread "Inner"]]]],
    fragment "Inner" "User" [page "users" ("last", .var "n") [select "edges" []]]]

theorem pageInPage_raised : (pageInPage 10).Alike FieldHead.RaisedTo (pageInPage 20) := by
  have hsame (h : FieldHead) : FieldHead.RaisedTo h h :=
    ⟨rfl, List.forall₂_same.mpr fun a _ => .same a⟩
  have hfirst : List.Forall₂ ArgumentRaised [("first", .int 10)] [("first", .int 20)] :=
    .cons (.page rfl (by decide) (by decide)) .nil
  have hspreads : Selection.Alike FieldHead.RaisedTo [spread "Inner", spread "Inner"]
      [spread "Inner", spread "Inner"] := .spread _ _ _ _ _ (.spread _ _ _ _ _ .nil)
  refine .cons (.operation ⟨rfl, rfl, ?_⟩) (.cons (.fragment ⟨rfl, rfl, ?_⟩) .nil)
  · exact .field _ _ ⟨rfl, hfirst⟩
      (.field _ _ (hsame _) (.field _ _ (hsame _) hspreads .nil) .nil) .nil
  · exact .field _ _ (hsame _) (.field _ _ (hsame _) .nil .nil) .nil

def pageEstimator (n : Int) (weight : Nat) : Estimator where
  schema := Estimator.pagedSchema
  bindings := NameMap.ofList [("n", n)]
  weights := NameMap.ofList [("Users", weight)]

theorem pageEstimator_bindings (n : Int) (weight : Nat) (x : String) :
    (pageEstimator n weight).bindings.get? x = if "n" = x then some n else none := by
  simp [pageEstimator, NameMap.ofList]

theorem pageEstimator_weight (n : Int) (weight : Nat) (type : String) :
    (pageEstimator n weight).weights.weight type = if "Users" = type then weight else 0 := by
  by_cases h : "Users" = type <;> simp [pageEstimator, NameMap.ofList, Weights.weight, h]

theorem estimate_pageInPage :
    ((pageEstimator 10 7).estimate (pageInPage 10)).result = .ok ⟨14, 210⟩ := by cbv

/-- A literal, a bound integer and a weight are raised at once. -/
theorem estimate_pageInPage_mono :
    ((pageEstimator 10 7).estimate (pageInPage 10)).result = .ok ⟨14, 210⟩ ∧
    ((pageEstimator 30 9).estimate (pageInPage 20)).result = .ok ⟨110, 1220⟩ ∧
    14 ≤ 110 ∧ 210 ≤ 1220 := by
  have hraised : ((pageEstimator 30 9).estimate (pageInPage 20)).result = .ok ⟨110, 1220⟩ := by cbv
  have hV : Bindings.RaisedTo (pageEstimator 10 7).bindings (pageEstimator 30 9).bindings := by
    intro x
    rw [pageEstimator_bindings, pageEstimator_bindings]
    split_ifs
    · exact .some (.inr ⟨by decide, by decide⟩)
    · exact .none
  have hw (type : String) :
      (pageEstimator 10 7).weights.weight type ≤ (pageEstimator 30 9).weights.weight type := by
    rw [pageEstimator_weight, pageEstimator_weight]
    split_ifs <;> decide
  have hmono := Estimator.estimate_mono (pageEstimator 10 7) _ _ _ _ pageInPage_raised hV hw
  exact ⟨estimate_pageInPage, hraised, hmono.2 _ _ estimate_pageInPage hraised⟩

end Sample

end QueryTariff
