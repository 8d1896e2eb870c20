import QueryTariff.PageSize
import QueryTariff.Proofs.Expansion.FullExpansion
import Mathlib.Data.List.Forall2

/-!
Where the limit on selections begins to matter. The selections that an expansion counts are those of
its result, so one number tells the limits under which a document is expanded from those under which
it is not (`expand_threshold`).
-/

namespace QueryTariff

namespace Definition

/-- The definition with other selections between its braces. -/
def withItems : Definition → List Selection → Definition
  | .operation o, items => .operation { o with body := ⟨o.body.span, items⟩ }
  | .fragment f, items => .fragment { f with body := ⟨f.body.span, items⟩ }

@[simp] theorem items_withItems (x : Definition) (items : List Selection) :
    (x.withItems items).body.items = items := by cases x <;> rfl

@[simp] theorem withItems_withItems (x : Definition) (items items' : List Selection) :
    (x.withItems items).withItems items' = x.withItems items' := by cases x <;> rfl

@[simp] theorem withItems_items (x : Definition) : x.withItems x.body.items = x := by
  cases x <;> rfl

/-- The names on the path when the expansion of the definition begins. -/
def ownPath : Definition → List String
  | .operation _ => []
  | .fragment f => [f.name]

@[simp] theorem ownPath_withItems (x : Definition) (items : List Selection) :
    (x.withItems items).ownPath = x.ownPath := by cases x <;> rfl

/-- How many selections the definitions hold, at all depths. -/
def selectionCount : List Definition → Nat
  | [] => 0
  | x :: xs => Selection.count x.body.items + selectionCount xs

theorem selectionCount_le_of_sublist {xs ys : List Definition} (h : xs.Sublist ys) :
    selectionCount xs ≤ selectionCount ys := by
  induction h with
  | slnil => exact Nat.le_refl _
  | cons y _ ih =>
    rw [selectionCount]
    omega
  | cons_cons x _ ih =>
    rw [selectionCount, selectionCount]
    omega

theorem selectionCount_le_of_forall₂ {R : Definition → Definition → Prop}
    (hR : ∀ x y, R x y → Selection.count y.body.items ≤ Selection.count x.body.items)
    {xs ys : List Definition} (h : List.Forall₂ R xs ys) : selectionCount ys ≤ selectionCount xs := by
  induction h with
  | nil => exact Nat.le_refl _
  | cons hxy _ ih =>
    have hcount := hR _ _ hxy
    rw [selectionCount, selectionCount]
    omega

end Definition

def Document.selectionCount (d : Document) : Nat := Definition.selectionCount d.definitions

namespace Expansion

namespace Counted

variable {α β : Type}

@[simp] theorem count_pure (a : α) : (pure a : Counted α).count = 0 := rfl

@[simp] theorem count_one : one.count = 1 := rfl

theorem count_bind_of_ok {x : Counted α} {a : α} (hx : x.result = .ok a) (f : α → Counted β) :
    (x >>= f).count = x.count + (f a).count := by
  show (andThen x f).count = _
  rw [andThen, hx]

theorem count_node_of_ok {wrap : List Selection → Selection} {body rest : Counted (List Selection)}
    {inner after : List Selection} (hbody : body.result = .ok inner)
    (hrest : rest.result = .ok after) :
    (node wrap body rest).count = 1 + body.count + rest.count := by
  rw [node, count_bind_of_ok result_one, count_bind_of_ok hbody, count_bind_of_ok hrest, count_one,
    count_pure, Nat.add_zero, Nat.add_assoc]

end Counted

/-- The selections counted on the way are those of the result. -/
theorem count_of_unlimited (F : FragmentTable) (path : List String) (items out : List Selection)
    (h : (unlimited F path items).result = .ok out) :
    (unlimited F path items).count = Selection.count out := by
  induction path, items using unlimited.induct F generalizing out with
  | case1 path =>
    rw [unlimited] at h ⊢
    cases h
    rw [Counted.count_pure, Selection.count]
  | case2 path head sp body rest ihBody ihRest =>
    rw [unlimited] at h ⊢
    obtain ⟨inner, after, hbody, hrest, rfl⟩ := Counted.node_eq_ok.mp h
    rw [Counted.count_node_of_ok hbody hrest, ihBody inner hbody, ihRest after hrest,
      Selection.count]
  | case3 path p on? ds sp body rest ihBody ihRest =>
    rw [unlimited] at h ⊢
    obtain ⟨inner, after, hbody, hrest, rfl⟩ := Counted.node_eq_ok.mp h
    rw [Counted.count_node_of_ok hbody hrest, ihBody inner hbody, ihRest after hrest,
      Selection.count]
  | case4 path p n ds rest hf ih =>
    rw [unlimited_undefined p ds rest hf] at h ⊢
    obtain ⟨inner, after, hbody, hrest, rfl⟩ := Counted.node_eq_ok.mp h
    rw [Counted.count_node_of_ok hbody hrest, ih after hrest, Selection.count, Counted.count_pure]
  | case5 path p n ds rest f hf hp =>
    rw [unlimited_cyclic p ds rest hf hp] at h
    simp at h
  | case6 path p n ds rest f hf hp ihBody ihRest =>
    rw [unlimited_spread p ds rest hf hp] at h ⊢
    obtain ⟨inner, after, hbody, hrest, rfl⟩ := Counted.node_eq_ok.mp h
    rw [Counted.count_node_of_ok hbody hrest, ihBody inner hbody, ihRest after hrest,
      Selection.count]

theorem unlimitedDefinition_eq (F : FragmentTable) (x : Definition) :
    unlimitedDefinition F x =
      (unlimited F x.ownPath x.body.items >>= fun items => pure (x.withItems items)) := by
  cases x <;> rfl

theorem unlimitedDefinition_eq_ok {F : FragmentTable} {x y : Definition} :
    (unlimitedDefinition F x).result = .ok y ↔
      ∃ items, (unlimited F x.ownPath x.body.items).result = .ok items ∧ y = x.withItems items := by
  rw [unlimitedDefinition_eq, Counted.result_bind_eq_ok]
  refine exists_congr fun items => and_congr_right fun _ => ?_
  rw [Counted.result_pure, Except.ok.injEq, eq_comm]

theorem count_of_unlimitedDefinition (F : FragmentTable) (x y : Definition)
    (h : (unlimitedDefinition F x).result = .ok y) :
    (unlimitedDefinition F x).count = Selection.count y.body.items := by
  obtain ⟨items, hitems, rfl⟩ := unlimitedDefinition_eq_ok.mp h
  have hcount := count_of_unlimited F x.ownPath x.body.items items hitems
  rw [unlimitedDefinition_eq, Counted.count_bind_of_ok hitems, hcount, Counted.count_pure,
    Nat.add_zero, Definition.items_withItems]

theorem count_of_unlimitedDefinitions (F : FragmentTable) (xs ys : List Definition)
    (h : (unlimitedDefinitions F xs).result = .ok ys) :
    (unlimitedDefinitions F xs).count = Definition.selectionCount ys := by
  induction xs generalizing ys with
  | nil =>
    cases h
    rfl
  | cons x xs ih =>
    obtain ⟨y, hy, h⟩ := Counted.result_bind_eq_ok.mp h
    obtain ⟨zs, hzs, h⟩ := Counted.result_bind_eq_ok.mp h
    cases h
    rw [unlimitedDefinitions_cons_of_ok hy, ih zs hzs, count_of_unlimitedDefinition F x y hy,
      Definition.selectionCount]

end Expansion

namespace Document

open Expansion

variable {d o : Document} {limit : Nat}

/-- What a document becomes without a limit. -/
def unlimited (d : Document) : Counted (List Definition) :=
  unlimitedDefinitions (FragmentTable.ofDocument d) d.definitions

theorem expand_of_le (h : d.unlimited.count ≤ limit) :
    (d.expand limit).result = (d.unlimited.result.map Document.mk).mapError .cyclic := by
  rw [expand_result]
  cases hr : d.unlimited.result with
  | error c => exact (FragmentTable.expand_eq_cyclic _ limit d c).mpr ⟨h, hr⟩
  | ok ds => exact (FragmentTable.expand_eq_ok _ limit d ⟨ds⟩).mpr ⟨h, hr⟩

theorem expand_of_lt (h : limit < d.unlimited.count) :
    (d.expand limit).result = .error (.tooManySelections limit) := by
  rw [expand_result, FragmentTable.expand_eq_tooMany]
  exact ⟨h, rfl⟩

theorem expand_eq_ok :
    (d.expand limit).result = .ok o ↔
      d.unlimited.result = .ok o.definitions ∧ o.selectionCount ≤ limit := by
  rw [expand_result, FragmentTable.expand_eq_ok, and_comm]
  refine and_congr_right fun h => ?_
  rw [count_of_unlimitedDefinitions _ _ _ h]
  rfl

/-- What succeeds under one limit succeeds under all that have room for it. -/
theorem expand_eq_ite (h : (d.expand limit).result = .ok o) (limit' : Nat) :
    (d.expand limit').result =
      if o.selectionCount ≤ limit' then .ok o else .error (.tooManySelections limit') := by
  obtain ⟨hresult, -⟩ := expand_eq_ok.mp h
  by_cases hle : o.selectionCount ≤ limit'
  · rw [if_pos hle]
    exact expand_eq_ok.mpr ⟨hresult, hle⟩
  · have hcount : d.unlimited.count = o.selectionCount :=
      count_of_unlimitedDefinitions _ _ _ hresult
    rw [if_neg hle]
    exact expand_of_lt (by omega)

/-- Each document has one outcome, an expansion or a cycle, and one threshold: a limit that reaches
the threshold gives the outcome, and any other limit is reported as exceeded. The threshold of an
expansion is its size. -/
theorem expand_threshold (d : Document) :
    ∃ (outcome : Except (List String) Document) (threshold : Nat),
      (∀ limit, threshold ≤ limit → (d.expand limit).result = outcome.mapError .cyclic) ∧
      (∀ limit, limit < threshold →
        (d.expand limit).result = .error (.tooManySelections limit)) ∧
      (∀ o, outcome = .ok o → threshold = o.selectionCount) ∧
      (∀ limit limit', limit ≤ limit' →
        (d.expand limit).result ≠ .error (.tooManySelections limit) →
        (d.expand limit').result = (d.expand limit).result) ∧
      ∀ limit o, (d.expand limit).result = .ok o → o.selectionCount ≤ limit := by
  refine ⟨d.unlimited.result.map Document.mk, d.unlimited.count, fun limit => expand_of_le,
    fun limit => expand_of_lt, ?_, ?_, fun limit o h => (expand_eq_ok.mp h).2⟩
  · intro o ho
    cases hr : d.unlimited.result with
    | error c =>
      rw [hr] at ho
      cases ho
    | ok ds =>
      rw [hr] at ho
      cases ho
      exact count_of_unlimitedDefinitions _ _ _ hr
  · intro limit limit' hle hne
    have hcount : d.unlimited.count ≤ limit := Nat.le_of_not_lt fun hlt => hne (expand_of_lt hlt)
    rw [expand_of_le hcount, expand_of_le (Nat.le_trans hcount hle)]

end Document

example : (Sample.nested.expand 12).result = .ok Sample.nestedExpanded ∧
    (Sample.nested.expand 11).result = .error (.tooManySelections 11) := by
  cbv

end QueryTariff
