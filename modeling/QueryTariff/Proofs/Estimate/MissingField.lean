import QueryTariff.Proofs.Estimate.Monotone
import QueryTariff.Proofs.Estimate.SchemaOrder

/-!
Estimates without some definitions of fields. Below a field whose definition is gone no type is
known any more, so no objects and no weights count there; a page there costs its bare price, though,
which is more than nothing only if the field was not defined before either
(`estimate_withoutFields`).
-/

namespace QueryTariff

namespace NameMap

variable {α β : Type}

/-- The map without the names for which `gone` holds. -/
def without (gone : String → Bool) (m : NameMap α) : NameMap α where
  entries := m.entries.filter fun e => !gone e.1
  nodup := m.nodup.sublist (List.filter_sublist.map Prod.fst)

/-- The map with other values, each made from its name and the value it had. -/
def mapValues (g : String → α → β) (m : NameMap α) : NameMap β where
  entries := m.entries.map fun e => (e.1, g e.1 e.2)
  nodup := by
    rw [List.map_map]
    exact m.nodup

theorem find?_filter (gone : String → Bool) (x : String) (l : List (String × α)) :
    find? x (l.filter fun e => !gone e.1) = if gone x then none else find? x l := by
  induction l with
  | nil => simp [find?]
  | cons e r ih =>
    obtain ⟨n, a⟩ := e
    by_cases hx : n = x
    · subst hx
      cases hn : gone n <;> simp_all [find?]
    · cases hn : gone n <;> simp_all [find?]

@[simp] theorem get?_without (gone : String → Bool) (m : NameMap α) (x : String) :
    (m.without gone).get? x = if gone x then none else m.get? x :=
  find?_filter gone x m.entries

theorem find?_mapValues (g : String → α → β) (x : String) (l : List (String × α)) :
    find? x (l.map fun e => (e.1, g e.1 e.2)) = (find? x l).map (g x) := by
  induction l with
  | nil => rfl
  | cons e r ih =>
    obtain ⟨n, a⟩ := e
    by_cases hx : n = x
    · simp [find?, hx]
    · simp [find?, hx, ih]

@[simp] theorem get?_mapValues (g : String → α → β) (m : NameMap α) (x : String) :
    (m.mapValues g).get? x = (m.get? x).map (g x) :=
  find?_mapValues g x m.entries

end NameMap

def FieldedType.withoutFields (gone : String → Bool) (t : FieldedType) : FieldedType :=
  { t with fields := t.fields.without gone }

def NamedType.withoutFields (gone : String → Bool) : NamedType → NamedType
  | .object t => .object (t.withoutFields gone)
  | .interface t => .interface (t.withoutFields gone)
  | t => t

/-- The schema without the fields for which `gone` holds of the name of their type and their own. -/
def Schema.withoutFields (gone : String → String → Bool) (S : Schema) : Schema :=
  { S with types := S.types.mapValues fun name => NamedType.withoutFields (gone name) }

theorem NamedType.field?_withoutFields (gone : String → Bool) (t : NamedType) (n : String) :
    (t.withoutFields gone).field? n = if gone n then none else t.field? n := by
  cases t with
  | object t => exact NameMap.get?_without gone t.fields n
  | interface t => exact NameMap.get?_without gone t.fields n
  | _ => exact (ite_self none).symm

theorem NamedType.within_withoutFields (gone : String → Bool) (t : NamedType) :
    (t.withoutFields gone).Within t where
  name := by cases t <;> rfl
  kind := by cases t <;> rfl
  field? := by
    intro n f hf
    rw [field?_withoutFields] at hf
    split_ifs at hf
    exact ⟨f, hf, rfl⟩

theorem Schema.within_withoutFields (gone : String → String → Bool) (S : Schema) :
    (S.withoutFields gone).Within S where
  rootName? := by intro kind; cases kind <;> rfl
  type? := by
    intro name
    have htype : (S.withoutFields gone).type? name =
        (S.type? name).map (NamedType.withoutFields (gone name)) :=
      NameMap.get?_mapValues _ S.types name
    rw [htype]
    cases S.type? name with
    | none => exact .none
    | some t => exact .some (t.within_withoutFields (gone name))

/-- Take definitions of fields away: an estimate fails as before, or it has no more objects; and if
each field that is scored was defined wherever the type around it was known, it costs no more. -/
theorem Estimator.estimate_withoutFields (E : Estimator) (gone : String → String → Bool)
    (d : Document) :
    (∃ e, (E.estimate d).result = .error e ∧
      ({ E with schema := E.schema.withoutFields gone }.estimate d).result = .error e) ∨
    ∃ os m m', E.scoredOperations d = .ok os ∧ (E.estimate d).result = .ok m ∧
      ({ E with schema := E.schema.withoutFields gone }.estimate d).result = .ok m' ∧
      m'.maxNode ≤ m.maxNode ∧
      ((∀ f ∈ occurrencesOf os, ¬ f.isUndefined E.schema = true) → m'.cost ≤ m.cost) := by
  have hwithin := E.schema.within_withoutFields gone
  rw [estimate_withSchema E (E.schema.withoutFields gone), estimate_result E]
  cases E.scoredOperations d with
  | error e => exact .inl ⟨e, rfl, rfl⟩
  | ok os =>
    refine .inr ⟨os, _, _, rfl, rfl, rfl, ?_, fun hdefined => ?_⟩
    · exact Saturating.clamp_le_clamp (E.objects_le_of_within hwithin os)
    · apply metrics_cost_le
      apply E.units_le_of_within hwithin os
      intro f hf hundefined
      exact absurd hundefined (hdefined f hf)

namespace Sample

def isUsersOfUser (type field : String) : Bool := type = "User" && field = "users"

/-- The inner page gives nothing once its definition is gone. -/
theorem estimate_pageInPage_withoutFields :
    ((pageEstimator 10 7).estimate (pageInPage 10)).result = .ok ⟨14, 210⟩ ∧
    ({ pageEstimator 10 7 with
        schema := Estimator.pagedSchema.withoutFields isUsersOfUser }.estimate
          (pageInPage 10)).result = .ok ⟨0, 10⟩ ∧
    10 ≤ 210 ∧ 0 ≤ 14 := by
  have hwithout : ({ pageEstimator 10 7 with
      schema := Estimator.pagedSchema.withoutFields isUsersOfUser }.estimate
        (pageInPage 10)).result = .ok ⟨0, 10⟩ := by cbv
  have hall : (((pageEstimator 10 7).scoredOperations (pageInPage 10)).map fun os =>
      (occurrencesOf os).all fun f => !f.isUndefined Estimator.pagedSchema) = .ok true := by cbv
  rcases Estimator.estimate_withoutFields (pageEstimator 10 7) isUsersOfUser (pageInPage 10) with
    ⟨e, he, -⟩ | ⟨os, m, m', hos, hm, hm', hnodes, hcost⟩
  · rw [estimate_pageInPage] at he
    cases he
  · have hdefined : ∀ f ∈ occurrencesOf os, ¬ f.isUndefined Estimator.pagedSchema = true := by
      rw [hos] at hall
      simpa using List.all_eq_true.mp (Except.ok.inj hall)
    cases estimate_pageInPage.symm.trans hm
    cases hwithout.symm.trans hm'
    exact ⟨estimate_pageInPage, hwithout, hnodes, hcost hdefined⟩

/-- A page in a page; the inner one is a field that `Users` does not define. -/
def lostPage : Document where
  definitions := [query [page "users" ("first", .int 100) [page "lost" ("first", .int 1) []]]]

/-! The condition on the cost is needed: with `users` gone, `lost` comes to cost a hundred units. -/

example : (({ schema := Estimator.pagedSchema } : Estimator).estimate lostPage).result =
    .ok ⟨0, 100⟩ := by cbv

example : (({ schema := Estimator.pagedSchema.withoutFields fun type _ => type = "Query" } :
    Estimator).estimate lostPage).result = .ok ⟨1, 0⟩ := by cbv

end Sample

end QueryTariff
