import QueryTariff.Proofs.Estimate.Monotone

/-!
Bindings taken away. A field whose page size comes from a variable has none once the variable is
unbound, so it multiplies by one, and costs nothing (`cost_eraseAll_le`).

The objects do not always become fewer. Below a field with a page size `edges` counts for nothing;
below one without, it counts. So a binding that goes adds the objects of such fields. Other
fields lose some: a page of `n` that goes divides by `n` what is counted at it and below it. What is
added and what is lost balance exactly (`maxNode_erase_le`).
-/

namespace QueryTariff

namespace NameMap

variable {α : Type}

def eraseAll (m : NameMap α) (names : List String) : NameMap α := names.foldl erase m

@[simp] theorem get?_eraseAll (m : NameMap α) (names : List String) (x : String) :
    (m.eraseAll names).get? x = if x ∈ names then none else m.get? x := by
  induction names generalizing m with
  | nil => simp [eraseAll]
  | cons n names ih =>
    have hstep : m.eraseAll (n :: names) = (m.erase n).eraseAll names := rfl
    rw [hstep, ih, get?_erase]
    by_cases hn : n = x
    · simp [hn]
    · have hx : x ≠ n := fun h => hn h.symm
      simp [hn, hx]

end NameMap

variable {S : Schema} {V : Bindings} {x : String}

/-- A page that is not empty is lost, or the page size stays. -/
theorem pageSize_eraseAll {names : List String}
    (hnames : ∀ x ∈ names, ∃ n, V.get? x = some n ∧ 1 ≤ n) (as : Arguments) :
    PageAtMost (pageSize (V.eraseAll names) as) (pageSize V as) := by
  unfold pageSize
  cases pageArgument? as with
  | none => exact .absent
  | some a =>
    obtain ⟨name, v⟩ := a
    show PageAtMost ((integer? (V.eraseAll names) v).bind natural?) ((integer? V v).bind natural?)
    cases v with
    | var x =>
      rw [integer?, integer?, NameMap.get?_eraseAll]
      by_cases hx : x ∈ names
      · obtain ⟨n, hn, hpos⟩ := hnames x hx
        have hsize : natural? n = some n.toNat := if_pos (by omega)
        rw [if_pos hx, hn]
        show PageAtMost none (natural? n)
        rw [hsize]
        exact .unpaged (by omega)
      · rw [if_neg hx]
        exact .refl _
    | _ => exact .refl _

theorem Occurrence.alike_eraseAll {names : List String}
    (hnames : ∀ x ∈ names, ∃ n, V.get? x = some n ∧ 1 ≤ n) (f : Occurrence) :
    Occurrence.Alike (FieldHead.PageAtMost (V.eraseAll names) V) f f :=
  .refl (fun h => ⟨rfl, pageSize_eraseAll hnames h.arguments⟩) f

/-- The page size of the field is the value of the variable `x`. -/
def FieldHead.isPagedBy (x : String) (h : FieldHead) : Bool :=
  (pageArgument? h.arguments).any fun a => a.2 = .var x

section
variable {h : FieldHead} {n : Int}

theorem pageArgument?_of_isPagedBy (hx : h.isPagedBy x = true) :
    ∃ name, pageArgument? h.arguments = some (name, .var x) := by
  rw [FieldHead.isPagedBy, Option.any_eq_true] at hx
  obtain ⟨⟨name, v⟩, ha, hv⟩ := hx
  obtain rfl : v = .var x := of_decide_eq_true hv
  exact ⟨name, ha⟩

theorem pageSize_of_isPagedBy (hn : V.get? x = some n) (hpos : 1 ≤ n)
    (hx : h.isPagedBy x = true) : pageSize V h.arguments = some n.toNat := by
  obtain ⟨name, ha⟩ := pageArgument?_of_isPagedBy hx
  rw [pageSize, ha]
  show (V.get? x).bind natural? = some n.toNat
  rw [hn]
  exact if_pos (by omega)

theorem pageSize_erase_of_isPagedBy (hx : h.isPagedBy x = true) :
    pageSize (V.erase x) h.arguments = none := by
  obtain ⟨name, ha⟩ := pageArgument?_of_isPagedBy hx
  rw [pageSize, ha]
  show ((V.erase x).get? x).bind natural? = none
  rw [NameMap.get?_erase, if_pos rfl]
  rfl

theorem pageSize_erase_of_not_pagedBy (hx : ¬ h.isPagedBy x = true) :
    pageSize (V.erase x) h.arguments = pageSize V h.arguments := by
  rw [FieldHead.isPagedBy] at hx
  unfold pageSize
  cases ha : pageArgument? h.arguments with
  | none => rfl
  | some a =>
    obtain ⟨name, v⟩ := a
    rw [ha, Option.any_some, decide_eq_true_eq] at hx
    show (integer? (V.erase x) v).bind natural? = (integer? V v).bind natural?
    cases v with
    | var y =>
      have hy : ¬ x = y := fun h => hx (congrArg Value.var h.symm)
      rw [integer?, integer?, NameMap.get?_erase, if_neg hy]
    | _ => rfl

/-- Each page that goes takes a factor out of the product of all pages. -/
theorem prod_pages_erase (hn : V.get? x = some n) (hpos : 1 ≤ n) (hs : List FieldHead) :
    (hs.filterMap fun h => pageSize V h.arguments).prod =
      n.toNat ^ hs.countP (·.isPagedBy x) *
        (hs.filterMap fun h => pageSize (V.erase x) h.arguments).prod := by
  induction hs with
  | nil => simp
  | cons h hs ih =>
    rw [List.filterMap_cons, List.filterMap_cons]
    by_cases hx : h.isPagedBy x = true
    · rw [pageSize_of_isPagedBy hn hpos hx, pageSize_erase_of_isPagedBy hx,
        List.countP_cons_of_pos hx, List.prod_cons, ih]
      ring
    · rw [pageSize_erase_of_not_pagedBy hx, List.countP_cons_of_neg hx]
      cases pageSize V h.arguments with
      | none => exact ih
      | some p =>
        rw [List.prod_cons, List.prod_cons, ih]
        ring

end

namespace Occurrence

/-- The field is `edges`, has no page size and gives objects, and the nearest field around it has
its page size from the variable `x`. -/
def isUncoveredBy (S : Schema) (V : Bindings) (x : String) (f : Occurrence) : Bool :=
  f.head.name = "edges" && (f.pageSize? V).isNone && (f.returnType? S).any NamedType.isObject &&
    (fieldsAround f.above).getLast?.any (·.isPagedBy x)

/-- The objects that the field adds for want of the variable `x`. -/
def uncovered (S : Schema) (V : Bindings) (x : String) (f : Occurrence) : Nat :=
  if f.isUncoveredBy S V x then f.multiplier (V.erase x) else 0

/-- The number of fields around the field that have their page size from the variable `x`. -/
def pagesBy (x : String) (f : Occurrence) : Nat := (fieldsAround f.above).countP (·.isPagedBy x)

/-- The objects that the field no longer adds for want of the variable `x`, which is bound to `n`.
For each page that goes, around it or its own, it adds them `n` times less often. -/
def dropped (S : Schema) (V : Bindings) (x : String) (n : Nat) (f : Occurrence) : Nat :=
  if (f.returnType? S).any NamedType.isObject then
    match f.pageSize? V with
    | none => if f.repeatsObjects V then 0 else (n ^ f.pagesBy x - 1) * f.multiplier (V.erase x)
    | some p =>
      if f.head.isPagedBy x then
        (n ^ (f.pagesBy x + 1) - if f.repeatsObjects (V.erase x) then 0 else 1) *
          f.multiplier (V.erase x)
      else p * (n ^ f.pagesBy x - 1) * f.multiplier (V.erase x)
  else 0

variable {f : Occurrence} {n : Int}

theorem multiplier_erase (hn : V.get? x = some n) (hpos : 1 ≤ n) (f : Occurrence) :
    f.multiplier V = n.toNat ^ f.pagesBy x * f.multiplier (V.erase x) :=
  prod_pages_erase hn hpos (fieldsAround f.above)

/-- The field is `edges` below a field that has its page size from the variable `x`. -/
def isBelowPage (x : String) (f : Occurrence) : Bool :=
  f.head.name = "edges" && (fieldsAround f.above).getLast?.any (·.isPagedBy x)

theorem isUncoveredBy_eq (S : Schema) (V : Bindings) (x : String) (f : Occurrence) :
    f.isUncoveredBy S V x =
      (f.isBelowPage x && (f.pageSize? V).isNone && (f.returnType? S).any NamedType.isObject) := by
  rw [isUncoveredBy, isBelowPage]
  ac_rfl

theorem isBelowPage_iff :
    f.isBelowPage x = true ↔ f.head.name = "edges" ∧
      ∃ parent, (fieldsAround f.above).getLast? = some parent ∧ parent.isPagedBy x = true := by
  rw [isBelowPage, Bool.and_eq_true, decide_eq_true_eq, Option.any_eq_true]

/-- Without the page around it `edges` repeats nothing. -/
theorem repeatsObjects_erase_of_isBelowPage (h : f.isBelowPage x = true) :
    f.repeatsObjects (V.erase x) = false := by
  obtain ⟨hname, parent, hlast, hpage⟩ := isBelowPage_iff.mp h
  rw [repeatsObjects_eq, hname, hlast]
  simp [pageSize_erase_of_isPagedBy hpage]

theorem repeatsObjects_of_isBelowPage (hn : V.get? x = some n) (hpos : 1 ≤ n)
    (h : f.isBelowPage x = true) : f.repeatsObjects V = true := by
  obtain ⟨hname, parent, hlast, hpage⟩ := isBelowPage_iff.mp h
  rw [repeatsObjects_eq, hname, hlast]
  simp [pageSize_of_isPagedBy hn hpos hpage]

theorem repeatsObjects_erase_of_not_isBelowPage (h : ¬ f.isBelowPage x = true) :
    f.repeatsObjects (V.erase x) = f.repeatsObjects V := by
  rw [isBelowPage_iff] at h
  rw [repeatsObjects_eq, repeatsObjects_eq]
  cases hlast : (fieldsAround f.above).getLast? with
  | none => rfl
  | some parent =>
    by_cases hname : f.head.name = "edges"
    · have hparent : ¬ parent.isPagedBy x = true := fun hpage => h ⟨hname, parent, hlast, hpage⟩
      simp only [Option.any_some, pageSize_erase_of_not_pagedBy hparent]
    · simp [hname]

/-- What a field adds without the variable and what it loses with it make up what it added before
and what it adds only now. -/
theorem objects_erase_add_dropped (hn : V.get? x = some n) (hpos : 1 ≤ n) (f : Occurrence) :
    f.objects S (V.erase x) + f.dropped S V x n.toNat = f.objects S V + f.uncovered S V x := by
  have hM := multiplier_erase hn hpos f
  have hadd (k m : Nat) : m + (n.toNat ^ k - 1) * m = n.toNat ^ k * m := by
    have hpow : 1 ≤ n.toNat ^ k := Nat.one_le_pow _ _ (by omega)
    rw [Nat.sub_one_mul, Nat.add_sub_cancel' (Nat.le_mul_of_pos_left m hpow)]
  rw [objects, objects, dropped, uncovered, isUncoveredBy_eq, hM]
  by_cases hobject : (f.returnType? S).any NamedType.isObject = true
  case neg => simp [hobject]
  rw [if_pos hobject, if_pos hobject, if_pos hobject, hobject, Bool.and_true]
  by_cases hpaged : f.head.isPagedBy x = true
  · have hpage : f.pageSize? V = some n.toNat := pageSize_of_isPagedBy hn hpos hpaged
    have hpage' : f.pageSize? (V.erase x) = none := pageSize_erase_of_isPagedBy hpaged
    simp only [hpage, hpage', hpaged, if_true, Option.isNone_some, Bool.and_false,
      Bool.false_eq_true, if_false, Nat.add_zero, ← Nat.mul_assoc, ← Nat.pow_succ']
    split_ifs
    · rw [Nat.zero_add, Nat.sub_zero]
    · exact hadd _ _
  · have hpage : f.pageSize? (V.erase x) = f.pageSize? V := pageSize_erase_of_not_pagedBy hpaged
    rw [hpage]
    cases f.pageSize? V with
    | some p =>
      simp only [hpaged, if_false, Option.isNone_some, Bool.and_false, Bool.false_eq_true,
        Nat.add_zero, Nat.mul_assoc, ← Nat.mul_add]
      rw [hadd]
    | none =>
      by_cases hbelow : f.isBelowPage x = true
      · simp [hbelow, repeatsObjects_of_isBelowPage hn hpos hbelow,
          repeatsObjects_erase_of_isBelowPage hbelow]
      · rw [repeatsObjects_erase_of_not_isBelowPage hbelow]
        simp only [hbelow, Bool.false_and, Bool.false_eq_true, if_false, Nat.add_zero]
        split_ifs
        · rfl
        · exact hadd _ _

end Occurrence

/-- Unbind variables whose values are at least one: there is still an estimate, and its cost is no
larger. -/
theorem Estimator.cost_eraseAll_le (E : Estimator) (d : Document) (names : List String)
    (m : Metrics) (hnames : ∀ x ∈ names, ∃ n, E.bindings.get? x = some n ∧ 1 ≤ n)
    (h : (E.estimate d).result = .ok m) :
    ∃ m', ({ E with bindings := E.bindings.eraseAll names }.estimate d).result = .ok m' ∧
      m'.cost ≤ m.cost := by
  obtain ⟨os, hos, rfl⟩ := estimate_eq_ok_iff.mp h
  refine ⟨_, estimate_eq_ok_iff.mpr ⟨os, hos, rfl⟩, metrics_cost_le ?_⟩
  apply List.sum_le_sum
  intro f _
  exact Occurrence.units_le_of_alike (Occurrence.alike_eraseAll hnames f) E.schema
    fun _ => Nat.le_refl _

theorem Sample.cost_eraseAll_pageInPage :
    (∀ x ∈ ["n"], ∃ n, (pageEstimator 10 7).bindings.get? x = some n ∧ 1 ≤ n) ∧
    ((pageEstimator 10 7).estimate (pageInPage 10)).result = .ok ⟨14, 210⟩ ∧
    ∃ m', ({ pageEstimator 10 7 with
        bindings := (pageEstimator 10 7).bindings.eraseAll ["n"] }.estimate (pageInPage 10)).result =
      .ok m' ∧ m'.cost ≤ 14 := by
  have hnames : ∀ x ∈ ["n"], ∃ n, (pageEstimator 10 7).bindings.get? x = some n ∧ 1 ≤ n := by
    intro x hx
    rw [List.mem_singleton.mp hx]
    exact ⟨10, rfl, by decide⟩
  exact ⟨hnames, estimate_pageInPage,
    Estimator.cost_eraseAll_le _ _ _ _ hnames estimate_pageInPage⟩

namespace Estimator

section
variable (E : Estimator) (x : String)

/-- The objects that operations add for want of the variable `x`, counted without bound. -/
def uncovered (os : List Operation) : Nat :=
  ((occurrencesOf os).map (Occurrence.uncovered E.schema E.bindings x)).sum

/-- The objects that operations no longer add for want of `x`, which is bound to `n`. -/
def dropped (n : Nat) (os : List Operation) : Nat :=
  ((occurrencesOf os).map (Occurrence.dropped E.schema E.bindings x n)).sum

theorem objects_erase_add_dropped {n : Int} (hn : E.bindings.get? x = some n) (hpos : 1 ≤ n)
    (os : List Operation) :
    { E with bindings := E.bindings.erase x }.objects os + E.dropped x n.toNat os =
      E.objects os + E.uncovered x os := by
  rw [objects, objects, dropped, uncovered, ← List.sum_map_add, ← List.sum_map_add]
  refine congrArg List.sum (List.map_congr_left fun f _ => ?_)
  exact Occurrence.objects_erase_add_dropped hn hpos f

/-- The objects with the variable `x`, which is bound to `n`, and without it. -/
structure EraseBalance (n : Nat) (os : List Operation) (m m' : Metrics) : Prop where
  before : m.maxNode = min (2 ^ 64 - 1) (E.objects os)
  after : m'.maxNode = min (2 ^ 64 - 1) (E.objects os + E.uncovered x os - E.dropped x n os)
  le_add : m'.maxNode ≤ m.maxNode + (E.uncovered x os - E.dropped x n os)
  le_iff : m'.maxNode ≤ m.maxNode ↔
    m.maxNode = 2 ^ 64 - 1 ∨ E.uncovered x os ≤ E.dropped x n os
  le_of_covered : (∀ f ∈ occurrencesOf os, ¬ f.isUncoveredBy E.schema E.bindings x = true) →
    m'.maxNode ≤ m.maxNode

theorem uncovered_eq_zero {os : List Operation}
    (h : ∀ f ∈ occurrencesOf os, ¬ f.isUncoveredBy E.schema E.bindings x = true) :
    E.uncovered x os = 0 := by
  apply List.sum_eq_zero
  intro k hk
  obtain ⟨f, hf, rfl⟩ := List.mem_map.mp hk
  exact if_neg (h f hf)

theorem eraseBalance {n : Int} (hn : E.bindings.get? x = some n) (hpos : 1 ≤ n)
    (os : List Operation) :
    E.EraseBalance x n.toNat os (E.metrics os)
      ({ E with bindings := E.bindings.erase x }.metrics os) := by
  have hbalance := E.objects_erase_add_dropped x hn hpos os
  have hbefore : (E.metrics os).maxNode = min (2 ^ 64 - 1) (E.objects os) := Nat.min_comm _ _
  have hafter : ({ E with bindings := E.bindings.erase x }.metrics os).maxNode =
      min (2 ^ 64 - 1) ({ E with bindings := E.bindings.erase x }.objects os) := Nat.min_comm _ _
  rw [Nat.eq_sub_of_add_eq hbalance] at hafter
  refine ⟨hbefore, hafter, by omega, by omega, fun hcovered => ?_⟩
  have hzero := E.uncovered_eq_zero x hcovered
  omega

end

/-- Unbind a variable whose value is at least one: there is still an estimate. Its objects are those
from before, with those of the fields `edges` that come to count by it and without those of the
pages that are gone. -/
theorem maxNode_erase_le (E : Estimator) (d : Document) (x : String) (n : Int) (m : Metrics)
    (hx : E.bindings.get? x = some n) (hn : 1 ≤ n) (h : (E.estimate d).result = .ok m) :
    ∃ os m', E.scoredOperations d = .ok os ∧
      ({ E with bindings := E.bindings.erase x }.estimate d).result = .ok m' ∧
      E.EraseBalance x n.toNat os m m' := by
  obtain ⟨os, hos, rfl⟩ := estimate_eq_ok_iff.mp h
  exact ⟨os, _, hos, estimate_eq_ok_iff.mpr ⟨os, hos, rfl⟩, E.eraseBalance x hx hn os⟩

end Estimator

namespace Sample

/-- Pages of objects behind an interface, which is itself no object. -/
def feedSchema : Schema where
  types := NameMap.ofList [
    ("Query", .object ⟨"Query", .builtIn, [], fieldOf "items" "Feed"⟩),
    ("Feed", .interface ⟨"Feed", .builtIn, [], fieldOf "edges" "Edge"⟩),
    ("Edge", .object ⟨"Edge", .builtIn, [], fieldOf "id" "ID"⟩)]
  query := "Query"
  mutation? := none
  subscription? := none
where
  fieldOf (name type : String) : NameMap FieldDefinition :=
    NameMap.ofList [(name, ⟨name, .builtIn, .named ⟨.builtIn, true, type⟩⟩)]

def feedEstimator : Estimator where
  schema := feedSchema
  bindings := NameMap.ofList [("n", 5)]

def feedDocument : Document where
  definitions := [query [page "items" ("first", .var "n") [select "edges" [select "id" []]]]]

theorem estimate_feedDocument : (feedEstimator.estimate feedDocument).result = .ok ⟨0, 0⟩ := by cbv

/-- The only field that gives objects counts for nothing while the page around it has a size. -/
theorem maxNode_erase_not_le :
    feedEstimator.bindings.get? "n" = some 5 ∧ (1 : Int) ≤ 5 ∧
    (feedEstimator.estimate feedDocument).result = .ok ⟨0, 0⟩ ∧
    ({ feedEstimator with bindings := feedEstimator.bindings.erase "n" }.estimate
      feedDocument).result = .ok ⟨0, 1⟩ ∧
    ¬ (⟨0, 1⟩ : Metrics).maxNode ≤ (⟨0, 0⟩ : Metrics).maxNode := by
  have herased : ({ feedEstimator with bindings := feedEstimator.bindings.erase "n" }.estimate
      feedDocument).result = .ok ⟨0, 1⟩ := by cbv
  exact ⟨rfl, by decide, estimate_feedDocument, herased, by decide⟩

/-- Below the same page, `edges` with a page of its own. -/
def coveredDocument : Document where
  definitions := [query [page "items" ("first", .var "n")
    [page "edges" ("first", .int 2) [select "id" []]]]]

/-- What comes to count and what is lost: the first outweighs the second, there is nothing to
outweigh, and pages of objects outweigh all that comes to count below them. -/
theorem balances :
    ((feedEstimator.scoredOperations feedDocument).map fun os =>
      (feedEstimator.uncovered "n" os, feedEstimator.dropped "n" 5 os)) = .ok (1, 0) ∧
    ((feedEstimator.scoredOperations coveredDocument).map fun os =>
      (occurrencesOf os).all fun f => !f.isUncoveredBy feedSchema feedEstimator.bindings "n") =
        .ok true ∧
    (((pageEstimator 10 7).scoredOperations (pageInPage 10)).map fun os =>
      ((pageEstimator 10 7).uncovered "n" os, (pageEstimator 10 7).dropped "n" 10 os)) =
        .ok (20, 180) := by
  refine ⟨?_, ?_, ?_⟩ <;> cbv

/-- The objects become more, fewer for want of fields that come to count, and fewer in spite of
such fields. -/
theorem maxNode_erase_feedDocument :
    (feedEstimator.bindings.get? "n" = some 5 ∧ (1 : Int) ≤ 5 ∧
      (feedEstimator.estimate feedDocument).result = .ok ⟨0, 0⟩ ∧
      ∃ os m', feedEstimator.scoredOperations feedDocument = .ok os ∧
        ({ feedEstimator with bindings := feedEstimator.bindings.erase "n" }.estimate
          feedDocument).result = .ok m' ∧
        feedEstimator.EraseBalance "n" 5 os ⟨0, 0⟩ m' ∧
        feedEstimator.uncovered "n" os = 1 ∧ feedEstimator.dropped "n" 5 os = 0) ∧
    ((feedEstimator.estimate coveredDocument).result = .ok ⟨0, 10⟩ ∧
      ∃ os m', feedEstimator.scoredOperations coveredDocument = .ok os ∧
        ({ feedEstimator with bindings := feedEstimator.bindings.erase "n" }.estimate
          coveredDocument).result = .ok m' ∧
        (∀ f ∈ occurrencesOf os,
          ¬ f.isUncoveredBy feedSchema feedEstimator.bindings "n" = true) ∧
        m'.maxNode ≤ 10) ∧
    (pageEstimator 10 7).bindings.get? "n" = some 10 ∧
    ((pageEstimator 10 7).estimate (pageInPage 10)).result = .ok ⟨14, 210⟩ ∧
    ∃ os m', (pageEstimator 10 7).scoredOperations (pageInPage 10) = .ok os ∧
      ({ pageEstimator 10 7 with
          bindings := (pageEstimator 10 7).bindings.erase "n" }.estimate (pageInPage 10)).result =
        .ok m' ∧
      (pageEstimator 10 7).EraseBalance "n" 10 os ⟨14, 210⟩ m' ∧
      (pageEstimator 10 7).uncovered "n" os = 20 ∧ (pageEstimator 10 7).dropped "n" 10 os = 180 ∧
      m'.maxNode = 50 := by
  obtain ⟨hfeed, hcovered, hpage⟩ := balances
  have hestimate : (feedEstimator.estimate coveredDocument).result = .ok ⟨0, 10⟩ := by cbv
  refine ⟨⟨rfl, by decide, estimate_feedDocument, ?_⟩, ⟨hestimate, ?_⟩, rfl, estimate_pageInPage,
    ?_⟩
  · obtain ⟨os, m', hos, hm', hbalance⟩ :=
      Estimator.maxNode_erase_le feedEstimator feedDocument "n" 5 _ rfl (by decide)
        estimate_feedDocument
    rw [hos] at hfeed
    obtain ⟨hadded, hlost⟩ := Prod.mk.inj (Except.ok.inj hfeed)
    exact ⟨os, m', hos, hm', hbalance, hadded, hlost⟩
  · obtain ⟨os, m', hos, hm', hbalance⟩ :=
      Estimator.maxNode_erase_le feedEstimator coveredDocument "n" 5 _ rfl (by decide) hestimate
    rw [hos] at hcovered
    have hnone : ∀ f ∈ occurrencesOf os,
        ¬ f.isUncoveredBy feedSchema feedEstimator.bindings "n" = true := by
      simpa using List.all_eq_true.mp (Except.ok.inj hcovered)
    exact ⟨os, m', hos, hm', hnone, hbalance.le_of_covered hnone⟩
  · obtain ⟨os, m', hos, hm', hbalance⟩ :=
      Estimator.maxNode_erase_le (pageEstimator 10 7) (pageInPage 10) "n" 10 _ rfl (by decide)
        estimate_pageInPage
    rw [hos] at hpage
    obtain ⟨hadded, hlost⟩ := Prod.mk.inj (Except.ok.inj hpage)
    have hbefore : 210 = min (2 ^ 64 - 1) ((pageEstimator 10 7).objects os) := hbalance.before
    have hafter : m'.maxNode = min (2 ^ 64 - 1) ((pageEstimator 10 7).objects os +
      (pageEstimator 10 7).uncovered "n" os - (pageEstimator 10 7).dropped "n" 10 os) :=
        hbalance.after
    exact ⟨os, m', hos, hm', hbalance, hadded, hlost, by omega⟩

end Sample

end QueryTariff
