import QueryTariff.Proofs.Expansion.SpreadGraph
import QueryTariff.Proofs.Expansion.Unlimited
import Mathlib.Data.List.Forall2

/-!
What an expansion gives, told without limits and paths: `Document.FullExpansion` says what each
selection becomes, and an expansion that succeeds gives just that
(`expand_eq_fullExpansion`).
-/

namespace QueryTariff

open Selection

/-- What a list of selections becomes: a spread of a defined fragment is replaced by that fragment's
selections, expanded in turn, under the spread's position and directives. -/
inductive Document.ItemsExpand (d : Document) : List Selection → List Selection → Prop
  | nil : d.ItemsExpand [] []
  | field (h : FieldHead) (sp : Span) {body body' rest rest' : List Selection} :
    d.ItemsExpand body body' → d.ItemsExpand rest rest' →
    d.ItemsExpand (.field h sp body :: rest) (.field h sp body' :: rest')
  | inlineFragment (p : Position) (on? : Option String) (ds : List Directive) (sp : Span)
    {body body' rest rest' : List Selection} :
    d.ItemsExpand body body' → d.ItemsExpand rest rest' →
    d.ItemsExpand (.inlineFragment p on? ds sp body :: rest)
      (.inlineFragment p on? ds sp body' :: rest')
  | undefined (p : Position) {n : String} (ds : List Directive) {rest rest' : List Selection} :
    d.fragment? n = none → d.ItemsExpand rest rest' →
    d.ItemsExpand (.spread p n ds :: rest) (.spread p n ds :: rest')
  | spread (p : Position) {n : String} (ds : List Directive) {f : Fragment}
    {body' rest rest' : List Selection} :
    d.fragment? n = some f → d.ItemsExpand f.body.items body' → d.ItemsExpand rest rest' →
    d.ItemsExpand (.spread p n ds :: rest)
      (.inlineFragment p (some f.on) ds f.body.span body' :: rest')

/-- A definition keeps all but its selections. -/
inductive Document.DefinitionExpands (d : Document) : Definition → Definition → Prop
  | operation (o : Operation) {items : List Selection} : d.ItemsExpand o.body.items items →
    d.DefinitionExpands (.operation o) (.operation { o with body := ⟨o.body.span, items⟩ })
  | fragment (f : Fragment) {items : List Selection} : d.ItemsExpand f.body.items items →
    d.DefinitionExpands (.fragment f) (.fragment { f with body := ⟨f.body.span, items⟩ })

/-- The document `o` has the definitions of `d` in their order, each expanded. -/
def Document.FullExpansion (d o : Document) : Prop :=
  List.Forall₂ d.DefinitionExpands d.definitions o.definitions

namespace Document

variable {d : Document}

theorem itemsExpand_unique {items a b : List Selection} (ha : d.ItemsExpand items a)
    (hb : d.ItemsExpand items b) : a = b := by
  induction ha generalizing b with
  | nil =>
    cases hb
    rfl
  | field h sp _ _ ihBody ihRest =>
    cases hb with
    | field _ _ hbody hrest => rw [ihBody hbody, ihRest hrest]
  | inlineFragment p on? ds sp _ _ ihBody ihRest =>
    cases hb with
    | inlineFragment _ _ _ _ hbody hrest => rw [ihBody hbody, ihRest hrest]
  | undefined p ds hn _ ihRest =>
    cases hb with
    | undefined _ _ _ hrest => rw [ihRest hrest]
    | spread _ _ hf _ _ => rw [hn] at hf; cases hf
  | spread p ds hf _ _ ihBody ihRest =>
    cases hb with
    | undefined _ _ hn _ => rw [hf] at hn; cases hn
    | spread _ _ hg hbody hrest =>
      rw [hf] at hg
      cases hg
      rw [ihBody hbody, ihRest hrest]

theorem definitionExpands_unique {x a b : Definition} (ha : d.DefinitionExpands x a)
    (hb : d.DefinitionExpands x b) : a = b := by
  cases ha with
  | operation o ha =>
    cases hb with
    | operation _ hb => rw [itemsExpand_unique ha hb]
  | fragment f ha =>
    cases hb with
    | fragment _ hb => rw [itemsExpand_unique ha hb]

theorem fullExpansion_unique {a b : Document} (ha : d.FullExpansion a) (hb : d.FullExpansion b) :
    a = b := by
  have hright : Relator.RightUnique d.DefinitionExpands := by
    intro x y z hy hz
    exact definitionExpands_unique hy hz
  have hds : a.definitions = b.definitions := List.right_unique_forall₂' hright ha hb
  cases a
  cases b
  exact congrArg Document.mk hds

theorem exists_of_mem_forall₂ {α β : Type} {R : α → β → Prop} {xs : List α} {ys : List β}
    (h : List.Forall₂ R xs ys) {x : α} (hx : x ∈ xs) : ∃ y, R x y := by
  induction h with
  | nil => simp at hx
  | @cons a b _ _ hab _ ih =>
    rcases List.mem_cons.mp hx with rfl | hx
    · exact ⟨b, hab⟩
    · exact ih hx

theorem undefined_of_mem_spreadNames {items out : List Selection} (h : d.ItemsExpand items out) :
    ∀ n ∈ spreadNames out, d.fragment? n = none := by
  induction h with
  | nil => simp [spreadNames]
  | field _ _ _ _ ihBody ihRest =>
    intro n hn
    rw [mem_spreadNames_field] at hn
    exact hn.elim (ihBody n) (ihRest n)
  | inlineFragment _ _ _ _ _ _ ihBody ihRest =>
    intro n hn
    rw [mem_spreadNames_inlineFragment] at hn
    exact hn.elim (ihBody n) (ihRest n)
  | undefined _ _ hnone _ ihRest =>
    intro n hn
    rw [mem_spreadNames_spread] at hn
    rcases hn with rfl | hn
    · exact hnone
    · exact ihRest n hn
  | spread _ _ _ _ _ ihBody ihRest =>
    intro n hn
    rw [mem_spreadNames_inlineFragment] at hn
    exact hn.elim (ihBody n) (ihRest n)

end Document

namespace Expansion

/-- An expansion that comes to an end gives what the selections become. -/
theorem itemsExpand_of_unlimited (d : Document) (path : List String) (items out : List Selection)
    (h : (unlimited (FragmentTable.ofDocument d) path items).result = .ok out) :
    d.ItemsExpand items out := by
  -- By the recursion of `unlimited`, which goes on from a spread to a fragment outside `items`.
  induction path, items using unlimited.induct (FragmentTable.ofDocument d) generalizing out with
  | case1 path =>
    rw [unlimited] at h
    cases h
    exact .nil
  | case2 path head sp body rest ihBody ihRest =>
    rw [unlimited] at h
    obtain ⟨body', rest', hbody, hrest, rfl⟩ := Counted.node_eq_ok.mp h
    exact .field head sp (ihBody body' hbody) (ihRest rest' hrest)
  | case3 path p on? ds sp body rest ihBody ihRest =>
    rw [unlimited] at h
    obtain ⟨body', rest', hbody, hrest, rfl⟩ := Counted.node_eq_ok.mp h
    exact .inlineFragment p on? ds sp (ihBody body' hbody) (ihRest rest' hrest)
  | case4 path p n ds rest hf ih =>
    rw [unlimited_undefined p ds rest hf] at h
    obtain ⟨_, rest', -, hrest, rfl⟩ := Counted.node_eq_ok.mp h
    rw [FragmentTable.get?_ofDocument] at hf
    exact .undefined p ds hf (ih rest' hrest)
  | case5 path p n ds rest f hf hp =>
    rw [unlimited_cyclic p ds rest hf hp] at h
    simp at h
  | case6 path p n ds rest f hf hp ihBody ihRest =>
    rw [unlimited_spread p ds rest hf hp] at h
    obtain ⟨body', rest', hbody, hrest, rfl⟩ := Counted.node_eq_ok.mp h
    rw [FragmentTable.get?_ofDocument] at hf
    exact .spread p ds hf (ihBody body' hbody) (ihRest rest' hrest)

theorem definitionExpands_of_unlimited (d : Document) (x y : Definition)
    (h : (unlimitedDefinition (FragmentTable.ofDocument d) x).result = .ok y) :
    d.DefinitionExpands x y := by
  cases x with
  | operation o =>
    obtain ⟨items, hitems, h⟩ := Counted.result_bind_eq_ok.mp h
    cases h
    exact .operation o (itemsExpand_of_unlimited d _ _ _ hitems)
  | fragment f =>
    obtain ⟨items, hitems, h⟩ := Counted.result_bind_eq_ok.mp h
    cases h
    exact .fragment f (itemsExpand_of_unlimited d _ _ _ hitems)

theorem forall₂_of_unlimited (d : Document) (xs ys : List Definition)
    (h : (unlimitedDefinitions (FragmentTable.ofDocument d) xs).result = .ok ys) :
    List.Forall₂ d.DefinitionExpands xs ys := by
  induction xs generalizing ys with
  | nil =>
    cases h
    exact .nil
  | cons x xs ih =>
    obtain ⟨y, hy, h⟩ := Counted.result_bind_eq_ok.mp h
    obtain ⟨zs, hzs, h⟩ := Counted.result_bind_eq_ok.mp h
    cases h
    exact .cons (definitionExpands_of_unlimited d x y hy) (ih zs hzs)

end Expansion

namespace Document

theorem fullExpansion_of_expand {d o : Document} {limit : Nat}
    (h : (d.expand limit).result = .ok o) : d.FullExpansion o := by
  rw [expand_result, FragmentTable.expand_eq_ok] at h
  exact Expansion.forall₂_of_unlimited d _ _ h.2

/-- An expansion that succeeds, under whatever limit, is the full expansion of the document, and no
spread of a defined fragment is left in it. -/
theorem expand_eq_fullExpansion (d o : Document) (limit : Nat)
    (h : (d.expand limit).result = .ok o) :
    d.FullExpansion o ∧ (∀ o', d.FullExpansion o' → o' = o) ∧
      ∀ x ∈ o.definitions, ∀ n ∈ spreadNames x.body.items, d.fragment? n = none := by
  have hfull := fullExpansion_of_expand h
  refine ⟨hfull, fun o' ho' => fullExpansion_unique ho' hfull, ?_⟩
  intro x hx n hn
  have hflip : List.Forall₂ (flip d.DefinitionExpands) o.definitions d.definitions := hfull.flip
  obtain ⟨y, hy⟩ := exists_of_mem_forall₂ hflip hx
  cases hy with
  | operation p hitems => exact undefined_of_mem_spreadNames hitems n hn
  | fragment f hitems => exact undefined_of_mem_spreadNames hitems n hn

end Document

/-! Small documents, all of whose parts stand at one place. -/

namespace Sample

def span : Span := ⟨.start, .start⟩

def query (items : List Selection) : Definition := .operation ⟨none, span, items⟩

def fragment (name on : String) (items : List Selection) : Definition :=
  .fragment ⟨.start, name, on, [], span, items⟩

def select (name : String) (items : List Selection) : Selection :=
  .field ⟨.start, none, name, [], []⟩ span items

def spread (name : String) : Selection := .spread .start name []

def into (on : String) (items : List Selection) : Selection :=
  .inlineFragment .start (some on) [] span items

/-- A name given twice, a name not given at all, and a fragment within a fragment. -/
def nested : Document where
  definitions := [query [select "a" [spread "F", spread "Lost"]],
    fragment "F" "T" [select "x" [], spread "G"], fragment "G" "U" [select "y" []],
    fragment "F" "V" [spread "G"]]

def nestedExpanded : Document where
  definitions := [
    query [select "a" [into "T" [select "x" [], into "U" [select "y" []]], spread "Lost"]],
    fragment "F" "T" [select "x" [], into "U" [select "y" []]], fragment "G" "U" [select "y" []],
    fragment "F" "V" [into "U" [select "y" []]]]

theorem expand_nested :
    (nested.expand 20).result = .ok nestedExpanded ∧
    nested.FullExpansion nestedExpanded ∧ (∀ o, nested.FullExpansion o → o = nestedExpanded) ∧
    ∀ x ∈ nestedExpanded.definitions, ∀ n ∈ spreadNames x.body.items, nested.fragment? n = none := by
  have h : (nested.expand 20).result = .ok nestedExpanded := by cbv
  exact ⟨h, Document.expand_eq_fullExpansion nested nestedExpanded 20 h⟩

end Sample

end QueryTariff
