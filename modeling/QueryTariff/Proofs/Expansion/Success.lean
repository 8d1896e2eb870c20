import QueryTariff.Proofs.Expansion.Correspondence
import QueryTariff.Proofs.Expansion.Cycles
import QueryTariff.Proofs.Expansion.Threshold

/-!
Exactly when an expansion succeeds. It does so if there is a full expansion, the limit has room for
it, and no fragment is led back to its own name (`expand_eq_ok_iff`). The last condition says more
than that there is a full expansion, for a name may stand for another fragment than the one that
bears it.

What has no defined spreads left is its own expansion, so expanding twice is expanding once
(`expand_idempotent`).
-/

namespace QueryTariff

open Selection

namespace Document

variable {d : Document} {items body rest out : List Selection} {m n : String} {f : Fragment}

/-- The spreads in `items`, and those in the fragments they stand for, lead to the name `n`. -/
def Reaches (d : Document) (items : List Selection) (n : String) : Prop :=
  ∃ m ∈ spreadNames items, Relation.ReflTransGen d.Spreads m n

/-- A document of which each name stands for the same fragment in another leads no further. -/
theorem Reaches.mono {d' : Document} (h : d'.Reaches items n)
    (hd : ∀ m f, d'.fragment? m = some f → d.fragment? m = some f) : d.Reaches items n := by
  obtain ⟨m, hm, hmn⟩ := h
  refine ⟨m, hm, Relation.ReflTransGen.mono ?_ _ _ hmn⟩
  rintro a b ⟨f, hf, hb⟩
  exact ⟨f, hd a f hf, hb⟩

theorem not_reaches_nil : ¬ d.Reaches [] n := by
  rintro ⟨m, hm, -⟩
  simp [spreadNames] at hm

theorem reaches_field (h : FieldHead) (sp : Span) :
    d.Reaches (.field h sp body :: rest) n ↔ d.Reaches body n ∨ d.Reaches rest n := by
  simp only [Reaches, mem_spreadNames_field, or_and_right, exists_or]

theorem reaches_inlineFragment (p : Position) (on? : Option String) (ds : List Directive)
    (sp : Span) :
    d.Reaches (.inlineFragment p on? ds sp body :: rest) n ↔
      d.Reaches body n ∨ d.Reaches rest n := by
  simp only [Reaches, mem_spreadNames_inlineFragment, or_and_right, exists_or]

theorem reaches_spread (p : Position) (ds : List Directive) :
    d.Reaches (.spread p m ds :: rest) n ↔
      Relation.ReflTransGen d.Spreads m n ∨ d.Reaches rest n := by
  simp only [Reaches, mem_spreadNames_spread, or_and_right, exists_or, exists_eq_left]

theorem leads_of_fragment? (hf : d.fragment? m = some f) :
    Relation.ReflTransGen d.Spreads m n ↔ m = n ∨ d.Reaches f.body.items n := by
  constructor
  · intro h
    rcases Relation.ReflTransGen.cases_head h with rfl | ⟨k, ⟨g, hg, hk⟩, hkn⟩
    · exact .inl rfl
    · rw [hf] at hg
      cases hg
      exact .inr ⟨k, hk, hkn⟩
  · rintro (rfl | ⟨k, hk, hkn⟩)
    · exact .refl
    · exact .head ⟨f, hf, hk⟩ hkn

theorem leads_of_undefined (hm : d.fragment? m = none) :
    Relation.ReflTransGen d.Spreads m n ↔ m = n := by
  constructor
  · intro h
    rcases Relation.ReflTransGen.cases_head h with rfl | ⟨k, ⟨g, hg, -⟩, -⟩
    · rfl
    · rw [hm] at hg
      cases hg
  · rintro rfl
    exact .refl

theorem not_reaches_self (hf : d.fragment? n = some f) (h : d.ItemsExpand f.body.items out) :
    ¬ d.Reaches f.body.items n := by
  rintro ⟨m, hm, hmn⟩
  have hends : d.Ends n := ends_of_fragment? hf (ends_of_itemsExpand h)
  exact not_cycle_of_ends hends (.head' ⟨f, hf, hm⟩ hmn)

end Document

namespace Expansion

variable {d : Document} {path : List String} {items out : List Selection}

/-- Where an expansion comes to an end, nothing leads back to a defined name on its path. -/
theorem not_reaches_of_unlimited {n : String} (hn : d.fragment? n ≠ none) (hpath : n ∈ path)
    (h : (unlimited (FragmentTable.ofDocument d) path items).result = .ok out) :
    ¬ d.Reaches items n := by
  induction path, items using unlimited.induct (FragmentTable.ofDocument d) generalizing out with
  | case1 path => exact Document.not_reaches_nil
  | case2 path head sp body rest ihBody ihRest =>
    rw [unlimited] at h
    obtain ⟨inner, after, hbody, hrest, -⟩ := Counted.node_eq_ok.mp h
    rw [Document.reaches_field, not_or]
    exact ⟨ihBody hpath hbody, ihRest hpath hrest⟩
  | case3 path p on? ds sp body rest ihBody ihRest =>
    rw [unlimited] at h
    obtain ⟨inner, after, hbody, hrest, -⟩ := Counted.node_eq_ok.mp h
    rw [Document.reaches_inlineFragment, not_or]
    exact ⟨ihBody hpath hbody, ihRest hpath hrest⟩
  | case4 path p m ds rest hf ih =>
    rw [unlimited_undefined p ds rest hf] at h
    obtain ⟨_, after, -, hrest, -⟩ := Counted.node_eq_ok.mp h
    rw [FragmentTable.get?_ofDocument] at hf
    rw [Document.reaches_spread, Document.leads_of_undefined hf, not_or]
    refine ⟨?_, ih hpath hrest⟩
    rintro rfl
    exact hn hf
  | case5 path p m ds rest f hf hp =>
    rw [unlimited_cyclic p ds rest hf hp] at h
    simp at h
  | case6 path p m ds rest f hf hp ihBody ihRest =>
    rw [unlimited_spread p ds rest hf hp] at h
    obtain ⟨inner, after, hbody, hrest, -⟩ := Counted.node_eq_ok.mp h
    rw [FragmentTable.get?_ofDocument] at hf
    rw [Document.reaches_spread, Document.leads_of_fragment? hf, not_or, not_or]
    refine ⟨⟨?_, ihBody (List.mem_append_left _ hpath) hbody⟩, ihRest hpath hrest⟩
    rintro rfl
    exact hp hpath

/-- What the selections become is what their expansion gives, if nothing leads back to the path. -/
theorem unlimited_of_itemsExpand (h : d.ItemsExpand items out)
    (hpath : ∀ n ∈ path, ¬ d.Reaches items n) :
    (unlimited (FragmentTable.ofDocument d) path items).result = .ok out := by
  induction h generalizing path with
  | nil => rw [unlimited, Counted.result_pure]
  | field head sp _ _ ihBody ihRest =>
    simp only [Document.reaches_field, not_or] at hpath
    have hbody := ihBody fun n hn => (hpath n hn).1
    have hrest := ihRest fun n hn => (hpath n hn).2
    rw [unlimited]
    exact Counted.node_eq_ok.mpr ⟨_, _, hbody, hrest, rfl⟩
  | inlineFragment p on? ds sp _ _ ihBody ihRest =>
    simp only [Document.reaches_inlineFragment, not_or] at hpath
    have hbody := ihBody fun n hn => (hpath n hn).1
    have hrest := ihRest fun n hn => (hpath n hn).2
    rw [unlimited]
    exact Counted.node_eq_ok.mpr ⟨_, _, hbody, hrest, rfl⟩
  | undefined p ds hnone _ ihRest =>
    simp only [Document.reaches_spread, not_or] at hpath
    have hrest := ihRest fun n hn => (hpath n hn).2
    rw [← FragmentTable.get?_ofDocument] at hnone
    rw [unlimited_undefined p ds _ hnone]
    exact Counted.node_eq_ok.mpr ⟨_, _, rfl, hrest, rfl⟩
  | @spread p m ds f _ _ _ hf hitems _ ihBody ihRest =>
    simp only [Document.reaches_spread, Document.leads_of_fragment? hf, not_or] at hpath
    have hm : m ∉ path := fun hm => (hpath m hm).1.1 rfl
    -- The name goes on the path of its fragment, which is not led back to it: it has an expansion.
    have hinner : ∀ n ∈ path ++ [m], ¬ d.Reaches f.body.items n := by
      intro n hn
      rcases List.mem_append.mp hn with hn | hn
      · exact (hpath n hn).1.2
      · rw [List.mem_singleton.mp hn]
        exact Document.not_reaches_self hf hitems
    have hbody := ihBody hinner
    have hrest := ihRest fun n hn => (hpath n hn).2
    rw [← FragmentTable.get?_ofDocument] at hf
    rw [unlimited_spread p ds _ hf hm]
    exact Counted.node_eq_ok.mpr ⟨_, _, hbody, hrest, rfl⟩

theorem unlimitedDefinitions_eq_ok {F : FragmentTable} {xs ys : List Definition} :
    (unlimitedDefinitions F xs).result = .ok ys ↔
      List.Forall₂ (fun x y => (unlimitedDefinition F x).result = .ok y) xs ys := by
  induction xs generalizing ys with
  | nil => simp [unlimitedDefinitions, eq_comm]
  | cons x xs ih =>
    simp only [unlimitedDefinitions, Counted.result_bind_eq_ok, Counted.result_pure, ih,
      List.forall₂_cons_left_iff, Except.ok.injEq]
    constructor
    · rintro ⟨y, hy, zs, hzs, rfl⟩
      exact ⟨y, zs, hy, hzs, rfl⟩
    · rintro ⟨y, zs, hy, hzs, rfl⟩
      exact ⟨y, hy, zs, hzs, rfl⟩

end Expansion

namespace Document

open Expansion

variable {d o : Document} {limit : Nat}

theorem definitionExpands_iff {x y : Definition} :
    d.DefinitionExpands x y ↔
      ∃ items, d.ItemsExpand x.body.items items ∧ y = x.withItems items := by
  constructor
  · intro h
    cases h with
    | operation o hitems => exact ⟨_, hitems, rfl⟩
    | fragment f hitems => exact ⟨_, hitems, rfl⟩
  · rintro ⟨items, hitems, rfl⟩
    cases x with
    | operation o => exact .operation o hitems
    | fragment f => exact .fragment f hitems

theorem fragment?_ne_none_of_ownPath {x : Definition} {n : String} (hx : x ∈ d.definitions)
    (hn : n ∈ x.ownPath) : d.fragment? n ≠ none := by
  intro hnone
  cases x with
  | operation o => cases hn
  | fragment f =>
    have hf := List.find?_eq_none.mp hnone f (mem_fragments.mpr hx)
    have hname : n = f.name := List.mem_singleton.mp hn
    simp [hname] at hf

theorem unlimitedDefinition_eq_ok_iff {x y : Definition} (hx : x ∈ d.definitions) :
    (unlimitedDefinition (FragmentTable.ofDocument d) x).result = .ok y ↔
      d.DefinitionExpands x y ∧ ∀ n ∈ x.ownPath, ¬ d.Reaches x.body.items n := by
  rw [unlimitedDefinition_eq_ok, definitionExpands_iff]
  constructor
  · rintro ⟨items, hitems, rfl⟩
    refine ⟨⟨items, itemsExpand_of_unlimited d _ _ _ hitems, rfl⟩, fun n hn => ?_⟩
    exact not_reaches_of_unlimited (fragment?_ne_none_of_ownPath hx hn) hn hitems
  · rintro ⟨⟨items, hitems, rfl⟩, hpath⟩
    exact ⟨items, unlimited_of_itemsExpand hitems hpath, rfl⟩

/-- An expansion succeeds exactly if what it gives is the full expansion and fits into the limit,
and no fragment is led back to its own name. -/
theorem expand_eq_ok_iff (d o : Document) (limit : Nat) :
    (d.expand limit).result = .ok o ↔
      d.FullExpansion o ∧ o.selectionCount ≤ limit ∧
        ∀ x ∈ d.definitions, ∀ n ∈ x.ownPath, ¬ d.Reaches x.body.items n := by
  rw [expand_eq_ok]
  constructor
  · rintro ⟨hresult, hlimit⟩
    have heach := unlimitedDefinitions_eq_ok.mp hresult
    refine ⟨forall₂_of_unlimited d _ _ hresult, hlimit, fun x hx => ?_⟩
    obtain ⟨y, hy⟩ := exists_of_mem_forall₂ heach hx
    exact ((unlimitedDefinition_eq_ok_iff hx).mp hy).2
  · rintro ⟨hfull, hlimit, hself⟩
    have heach := (List.forall₂_and_left _ _).mpr ⟨fun x hx => And.intro hx (hself x hx), hfull⟩
    refine ⟨unlimitedDefinitions_eq_ok.mpr (heach.imp ?_), hlimit⟩
    rintro x y ⟨⟨hx, hpath⟩, hxy⟩
    exact (unlimitedDefinition_eq_ok_iff hx).mpr ⟨hxy, hpath⟩

/-- All spreads that are left are of fragments that are not defined. -/
def Expanded (d : Document) : Prop :=
  ∀ x ∈ d.definitions, ∀ n ∈ spreadNames x.body.items, d.fragment? n = none

theorem itemsExpand_self {items : List Selection}
    (h : ∀ n ∈ spreadNames items, d.fragment? n = none) : d.ItemsExpand items items := by
  induction items using listInduction with
  | nil => exact .nil
  | field head sp body rest ihBody ihRest =>
    simp only [mem_spreadNames_field] at h
    exact .field head sp (ihBody fun n hn => h n (.inl hn)) (ihRest fun n hn => h n (.inr hn))
  | spread p m ds rest ih =>
    simp only [mem_spreadNames_spread] at h
    exact .undefined p ds (h m (.inl rfl)) (ih fun n hn => h n (.inr hn))
  | inlineFragment p on? ds sp body rest ihBody ihRest =>
    simp only [mem_spreadNames_inlineFragment] at h
    exact .inlineFragment p on? ds sp (ihBody fun n hn => h n (.inl hn))
      (ihRest fun n hn => h n (.inr hn))

theorem expand_of_expanded (h : d.Expanded) (hlimit : d.selectionCount ≤ limit) :
    (d.expand limit).result = .ok d := by
  rw [expand_eq_ok_iff]
  refine ⟨?_, hlimit, ?_⟩
  · refine List.forall₂_same.mpr fun x hx => definitionExpands_iff.mpr ?_
    exact ⟨x.body.items, itemsExpand_self (h x hx), x.withItems_items.symm⟩
  · -- No way goes on from a spread that is left, and the names of fragments are all defined.
    rintro x hx n hn ⟨m, hm, hmn⟩
    have hundefined := h x hx m hm
    rw [leads_of_undefined hundefined] at hmn
    subst hmn
    exact fragment?_ne_none_of_ownPath hx hn hundefined

theorem FullExpansion.corresponds (h : d.FullExpansion o) :
    Corresponds (fun _ _ => True) (fun f g => g.name = f.name) d o := by
  refine List.Forall₂.imp (fun x y hxy => ?_) h
  cases hxy with
  | operation _ _ => exact .operation trivial
  | fragment _ _ => exact .fragment rfl

theorem FullExpansion.expanded (h : d.FullExpansion o) : o.Expanded := by
  intro y hy n hn
  obtain ⟨x, -, hxy⟩ := exists_left_of_mem_forall₂ h hy
  obtain ⟨items, hitems, rfl⟩ := definitionExpands_iff.mp hxy
  rw [Definition.items_withItems] at hn
  exact h.corresponds.fragment?_of_none (fun _ _ hname => hname)
    (undefined_of_mem_spreadNames hitems n hn)

/-- Expanding what an expansion gave, with its own fragments and under the same limit, gives it once
more, and the names of the fragments stay the same. -/
theorem expand_idempotent (d o : Document) (limit : Nat) (h : (d.expand limit).result = .ok o) :
    (o.expand limit).result = .ok o ∧
      (FragmentTable.ofDocument o).keys = (FragmentTable.ofDocument d).keys := by
  obtain ⟨hfull, hlimit, -⟩ := (expand_eq_ok_iff d o limit).mp h
  exact ⟨expand_of_expanded hfull.expanded hlimit,
    hfull.corresponds.keys fun _ _ hname => hname⟩

end Document

namespace Sample

/-- The limit leaves no room for a selection more. -/
theorem expand_nestedExpanded :
    (nested.expand 12).result = .ok nestedExpanded ∧
    (nestedExpanded.expand 12).result = .ok nestedExpanded ∧
      (FragmentTable.ofDocument nestedExpanded).keys = (FragmentTable.ofDocument nested).keys := by
  have h : (nested.expand 12).result = .ok nestedExpanded := by cbv
  exact ⟨h, Document.expand_idempotent nested nestedExpanded 12 h⟩

end Sample

end QueryTariff
