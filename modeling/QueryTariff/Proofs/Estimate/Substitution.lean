import QueryTariff.Proofs.Estimate.Alike

/-!
Values put in for variables. Writing the integers that variables are bound to into the arguments of
all fields, and then binding nothing, makes no difference to any estimate (`estimate_substitute`).
-/

namespace QueryTariff

/-- A bound variable gives way to its integer. -/
def Value.substitute (V : Bindings) : Value → Value
  | .var x =>
    match V.get? x with
    | some n => .int n
    | none => .var x
  | v => v

def FieldHead.substitute (V : Bindings) (h : FieldHead) : FieldHead :=
  { h with arguments := h.arguments.map fun a => (a.1, a.2.substitute V) }

/-- The same selections with other heads of their fields. -/
def Selection.mapHeads (g : FieldHead → FieldHead) : List Selection → List Selection
  | [] => []
  | .field h sp items :: rest => .field (g h) sp (mapHeads g items) :: mapHeads g rest
  | .spread p n ds :: rest => .spread p n ds :: mapHeads g rest
  | .inlineFragment p on? ds sp items :: rest =>
    .inlineFragment p on? ds sp (mapHeads g items) :: mapHeads g rest

/-- The document with integers for the bound variables in the arguments of its fields. -/
def Document.substitute (V : Bindings) (d : Document) : Document where
  definitions := d.definitions.map fun x =>
    x.withItems (Selection.mapHeads (FieldHead.substitute V) x.body.items)

theorem integer?_substitute (V : Bindings) (v : Value) :
    integer? .empty (v.substitute V) = integer? V v := by
  cases v with
  | var x =>
    rw [Value.substitute, integer?]
    cases hx : V.get? x with
    | none => simp [integer?, NameMap.get?_empty]
    | some n => rfl
  | _ => rfl

theorem pageSize_substitute (V : Bindings) (h : FieldHead) :
    pageSize .empty (h.substitute V).arguments = pageSize V h.arguments := by
  have hfind : pageArgument? (h.substitute V).arguments =
      (pageArgument? h.arguments).map fun a => (a.1, a.2.substitute V) := by
    rw [pageArgument?, FieldHead.substitute, List.find?_map]
    rfl
  rw [pageSize, pageSize, hfind]
  cases pageArgument? h.arguments with
  | none => rfl
  | some a =>
    show (integer? .empty (a.2.substitute V)).bind natural? = (integer? V a.2).bind natural?
    rw [integer?_substitute]

theorem samePage_substitute (V : Bindings) (h : FieldHead) :
    FieldHead.SamePage V .empty h (h.substitute V) :=
  ⟨rfl, pageSize_substitute V h⟩

theorem alike_mapHeads {R : FieldHead → FieldHead → Prop} {g : FieldHead → FieldHead}
    (hg : ∀ h, R h (g h)) (items : List Selection) :
    Selection.Alike R items (Selection.mapHeads g items) := by
  induction items using Selection.listInduction with
  | nil =>
    rw [Selection.mapHeads]
    exact .nil
  | field h sp _ _ ihItems ihRest =>
    rw [Selection.mapHeads]
    exact .field sp sp (hg h) ihItems ihRest
  | spread p n ds _ ih =>
    rw [Selection.mapHeads]
    exact .spread p p n ds ds ih
  | inlineFragment p on? ds sp _ _ ihItems ihRest =>
    rw [Selection.mapHeads]
    exact .inlineFragment p p on? ds ds sp sp ihItems ihRest

theorem alike_substitute (V : Bindings) (d : Document) :
    d.Alike (FieldHead.SamePage V .empty) (d.substitute V) := by
  refine List.forall₂_map_right_iff.mpr (List.forall₂_same.mpr fun x _ => ?_)
  have hitems := alike_mapHeads (samePage_substitute V) x.body.items
  cases x with
  | operation o => exact .operation ⟨rfl, rfl, hitems⟩
  | fragment f => exact .fragment ⟨rfl, rfl, hitems⟩

/-- Bound variables are as good as their values: to estimate a document under bindings is to put
their integers in and estimate without any. -/
theorem Estimator.estimate_substitute (E : Estimator) (d : Document) :
    ({ E with bindings := .empty }.estimate (d.substitute E.bindings)).result =
      (E.estimate d).result :=
  estimate_of_alike E .empty (alike_substitute E.bindings d)

/-- Without its integer put in, the variable is just unbound, and the scores are others. -/
example : (Estimator.pagedEstimator.estimate Estimator.pagedDocument).result =
      .ok ⟨184467440737095516, 18446744073709551615⟩ ∧
    ({ Estimator.pagedEstimator with bindings := .empty }.estimate
      (Estimator.pagedDocument.substitute Estimator.pagedEstimator.bindings)).result =
        .ok ⟨184467440737095516, 18446744073709551615⟩ ∧
    ({ Estimator.pagedEstimator with bindings := .empty }.estimate
      Estimator.pagedDocument).result = .ok ⟨343597383, 8589934592⟩ := by
  cbv

example : (FieldHead.substitute (NameMap.ofList [("n", -3)]) ⟨.start, none, "users",
      [("first", .var "n"), ("last", .var "m"), ("after", .list [.var "n"])], []⟩).arguments =
    [("first", .int (-3)), ("last", .var "m"), ("after", .list [.var "n"])] := by
  decide

end QueryTariff
