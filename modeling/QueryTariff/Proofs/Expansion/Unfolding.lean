import QueryTariff.Proofs.Expansion.Success

/-!
Unfolding by hand. A spread that is replaced by its fragment, with the selections of the fragment
left as they were written, makes no difference to what a document becomes (`expand_of_unfoldsOnce`).
-/

namespace QueryTariff

open Selection

namespace Document

/-- One spread of the first list is replaced in the second by the fragment that it stands for. -/
inductive ItemsUnfoldOnce (d : Document) : List Selection → List Selection → Prop
  | here (p : Position) {n : String} (ds : List Directive) {f : Fragment} (rest : List Selection) :
    d.fragment? n = some f →
    d.ItemsUnfoldOnce (.spread p n ds :: rest)
      (.inlineFragment p (some f.on) ds f.body.span f.body.items :: rest)
  | later (x : Selection) {rest rest' : List Selection} : d.ItemsUnfoldOnce rest rest' →
    d.ItemsUnfoldOnce (x :: rest) (x :: rest')
  | inField (h : FieldHead) (sp : Span) {body body' : List Selection} (rest : List Selection) :
    d.ItemsUnfoldOnce body body' →
    d.ItemsUnfoldOnce (.field h sp body :: rest) (.field h sp body' :: rest)
  | inInlineFragment (p : Position) (on? : Option String) (ds : List Directive) (sp : Span)
    {body body' : List Selection} (rest : List Selection) :
    d.ItemsUnfoldOnce body body' →
    d.ItemsUnfoldOnce (.inlineFragment p on? ds sp body :: rest)
      (.inlineFragment p on? ds sp body' :: rest)

/-- The documents differ in one spread of one definition, which the second has unfolded. -/
def UnfoldsOnce (d d' : Document) : Prop :=
  ∃ before x after items, d.definitions = before ++ x :: after ∧
    d.ItemsUnfoldOnce x.body.items items ∧ d'.definitions = before ++ x.withItems items :: after

/-- Any of the spreads of the first list are unfolded in the second, each of them once. -/
inductive ItemsUnfold (d : Document) : List Selection → List Selection → Prop
  | nil : d.ItemsUnfold [] []
  | field (h : FieldHead) (sp : Span) {body body' rest rest' : List Selection} :
    d.ItemsUnfold body body' → d.ItemsUnfold rest rest' →
    d.ItemsUnfold (.field h sp body :: rest) (.field h sp body' :: rest')
  | inlineFragment (p : Position) (on? : Option String) (ds : List Directive) (sp : Span)
    {body body' rest rest' : List Selection} :
    d.ItemsUnfold body body' → d.ItemsUnfold rest rest' →
    d.ItemsUnfold (.inlineFragment p on? ds sp body :: rest)
      (.inlineFragment p on? ds sp body' :: rest')
  | keep (p : Position) (n : String) (ds : List Directive) {rest rest' : List Selection} :
    d.ItemsUnfold rest rest' →
    d.ItemsUnfold (.spread p n ds :: rest) (.spread p n ds :: rest')
  | unfold (p : Position) {n : String} (ds : List Directive) {f : Fragment}
    {rest rest' : List Selection} : d.fragment? n = some f → d.ItemsUnfold rest rest' →
    d.ItemsUnfold (.spread p n ds :: rest)
      (.inlineFragment p (some f.on) ds f.body.span f.body.items :: rest')

def DefinitionUnfolds (d : Document) (x y : Definition) : Prop :=
  ∃ items, d.ItemsUnfold x.body.items items ∧ y = x.withItems items

def Unfolds (d d' : Document) : Prop :=
  List.Forall₂ d.DefinitionUnfolds d.definitions d'.definitions

variable {d d' o : Document} {items items' out : List Selection}

theorem itemsUnfold_refl (items : List Selection) : d.ItemsUnfold items items := by
  induction items using listInduction with
  | nil => exact .nil
  | field h sp _ _ ihBody ihRest => exact .field h sp ihBody ihRest
  | spread p n ds _ ih => exact .keep p n ds ih
  | inlineFragment p on? ds sp _ _ ihBody ihRest =>
    exact .inlineFragment p on? ds sp ihBody ihRest

theorem itemsUnfold_cons (x : Selection) {rest rest' : List Selection}
    (h : d.ItemsUnfold rest rest') : d.ItemsUnfold (x :: rest) (x :: rest') := by
  cases x with
  | field head sp body => exact .field head sp (itemsUnfold_refl body) h
  | spread p n ds => exact .keep p n ds h
  | inlineFragment p on? ds sp body => exact .inlineFragment p on? ds sp (itemsUnfold_refl body) h

theorem ItemsUnfoldOnce.itemsUnfold (h : d.ItemsUnfoldOnce items items') :
    d.ItemsUnfold items items' := by
  induction h with
  | here p ds rest hf => exact .unfold p ds hf (itemsUnfold_refl rest)
  | later x _ ih => exact itemsUnfold_cons x ih
  | inField h sp rest _ ih => exact .field h sp ih (itemsUnfold_refl rest)
  | inInlineFragment p on? ds sp rest _ ih =>
    exact .inlineFragment p on? ds sp ih (itemsUnfold_refl rest)

theorem definitionUnfolds_refl (x : Definition) : d.DefinitionUnfolds x x :=
  ⟨x.body.items, itemsUnfold_refl _, x.withItems_items.symm⟩

theorem UnfoldsOnce.unfolds (h : d.UnfoldsOnce d') : d.Unfolds d' := by
  obtain ⟨before, x, after, items, hd, hitems, hd'⟩ := h
  have hsame (xs : List Definition) : List.Forall₂ d.DefinitionUnfolds xs xs :=
    List.forall₂_same.mpr fun y _ => definitionUnfolds_refl y
  unfold Unfolds
  rw [hd, hd']
  exact List.rel_append (hsame before) (.cons ⟨items, hitems.itemsUnfold, rfl⟩ (hsame after))

abbrev FragmentUnfolds (d : Document) (f g : Fragment) : Prop :=
  d.DefinitionUnfolds (.fragment f) (.fragment g)

theorem Unfolds.corresponds (h : d.Unfolds d') :
    Corresponds (fun _ _ => True) d.FragmentUnfolds d d' := by
  refine List.Forall₂.imp (fun x y hxy => ?_) h
  obtain ⟨items, hitems, rfl⟩ := hxy
  cases x with
  | operation o => exact .operation trivial
  | fragment f => exact .fragment ⟨items, hitems, rfl⟩

theorem FragmentUnfolds.name (f g : Fragment) (h : d.FragmentUnfolds f g) : g.name = f.name := by
  obtain ⟨items, -, hg⟩ := h
  cases hg
  rfl

/-- What is unfolded becomes what it would have become. -/
theorem itemsExpand_of_itemsUnfold (hd : d.Unfolds d') (h : d.ItemsExpand items out)
    (hu : d.ItemsUnfold items items') : d'.ItemsExpand items' out := by
  induction h generalizing items' with
  | nil =>
    cases hu
    exact .nil
  | field head sp _ _ ihBody ihRest =>
    cases hu with
    | field _ _ hbody hrest => exact .field head sp (ihBody hbody) (ihRest hrest)
  | inlineFragment p on? ds sp _ _ ihBody ihRest =>
    cases hu with
    | inlineFragment _ _ _ _ hbody hrest =>
      exact .inlineFragment p on? ds sp (ihBody hbody) (ihRest hrest)
  | undefined p ds hnone _ ihRest =>
    cases hu with
    | keep _ _ _ hrest =>
      have hnone' := hd.corresponds.fragment?_of_none FragmentUnfolds.name hnone
      exact .undefined p ds hnone' (ihRest hrest)
    | unfold _ _ hf _ =>
      rw [hnone] at hf
      cases hf
  | spread p ds hf _ _ ihBody ihRest =>
    cases hu with
    | keep _ _ _ hrest =>
      -- The fragment may itself have been unfolded somewhere.
      obtain ⟨g, hg, body, hbody, hgf⟩ := hd.corresponds.fragment?_of_some FragmentUnfolds.name hf
      cases hgf
      have hspread := ItemsExpand.spread p ds hg (ihBody hbody) (ihRest hrest)
      exact hspread
    | unfold _ _ hg hrest =>
      -- What was put in for the spread is still to be expanded, now as an inline fragment.
      rw [hf] at hg
      cases hg
      exact .inlineFragment p _ ds _ (ihBody (itemsUnfold_refl _)) (ihRest hrest)

theorem forall₂_of_unfolds (hd : d.Unfolds d') {xs ys zs : List Definition}
    (hu : List.Forall₂ d.DefinitionUnfolds xs ys) (he : List.Forall₂ d.DefinitionExpands xs zs) :
    List.Forall₂ d'.DefinitionExpands ys zs := by
  induction hu generalizing zs with
  | nil =>
    cases he
    exact .nil
  | cons hxy _ ih =>
    cases he with
    | cons hxz hrest =>
      obtain ⟨items', hitems', rfl⟩ := hxy
      obtain ⟨out, hout, rfl⟩ := definitionExpands_iff.mp hxz
      refine .cons (definitionExpands_iff.mpr ⟨out, ?_, ?_⟩) (ih hrest)
      · rw [Definition.items_withItems]
        exact itemsExpand_of_itemsUnfold hd hout hitems'
      · rw [Definition.withItems_withItems]

theorem reaches_of_mem_itemsUnfold {m : String} (hu : d.ItemsUnfold items items')
    (hm : m ∈ spreadNames items') : d.Reaches items m := by
  induction hu with
  | nil => simp [spreadNames] at hm
  | field h sp _ _ ihBody ihRest =>
    rw [mem_spreadNames_field] at hm
    exact (reaches_field h sp).mpr (hm.imp ihBody ihRest)
  | inlineFragment p on? ds sp _ _ ihBody ihRest =>
    rw [mem_spreadNames_inlineFragment] at hm
    exact (reaches_inlineFragment p on? ds sp).mpr (hm.imp ihBody ihRest)
  | keep p n ds _ ih =>
    rw [mem_spreadNames_spread] at hm
    refine (reaches_spread p ds).mpr (hm.imp ?_ ih)
    rintro rfl
    exact .refl
  | unfold p ds hf _ ih =>
    rw [mem_spreadNames_inlineFragment] at hm
    refine (reaches_spread p ds).mpr (hm.imp (fun hbody => ?_) ih)
    exact (leads_of_fragment? hf).mpr (.inr ⟨m, hbody, .refl⟩)

theorem leads_of_unfolds (hd : d.Unfolds d') {m n : String}
    (h : Relation.ReflTransGen d'.Spreads m n) : Relation.ReflTransGen d.Spreads m n := by
  refine Relation.reflTransGen_closed (fun a b => ?_) _ _ h
  rintro ⟨g, hg, hb⟩
  cases hf : d.fragment? a with
  | none =>
    rw [hd.corresponds.fragment?_of_none FragmentUnfolds.name hf] at hg
    cases hg
  | some f =>
    obtain ⟨f', hf', items, hitems, hff'⟩ :=
      hd.corresponds.fragment?_of_some FragmentUnfolds.name hf
    rw [hf'] at hg
    cases hg
    cases hff'
    exact (leads_of_fragment? hf).mpr (.inr (reaches_of_mem_itemsUnfold hitems hb))

/-- Unfolding opens no new ways from fragment to fragment. -/
theorem reaches_of_unfolds (hd : d.Unfolds d') (hu : d.ItemsUnfold items items') {n : String}
    (h : d'.Reaches items' n) : d.Reaches items n := by
  obtain ⟨m, hm, hmn⟩ := h
  obtain ⟨k, hk, hkm⟩ := reaches_of_mem_itemsUnfold hu hm
  exact ⟨k, hk, hkm.trans (leads_of_unfolds hd hmn)⟩

theorem expand_of_unfolds {limit : Nat} (hd : d.Unfolds d') (h : (d.expand limit).result = .ok o) :
    (d'.expand limit).result = .ok o := by
  obtain ⟨hfull, hlimit, hself⟩ := (expand_eq_ok_iff d o limit).mp h
  refine (expand_eq_ok_iff d' o limit).mpr ⟨forall₂_of_unfolds hd hd hfull, hlimit, ?_⟩
  intro y hy n hn hreach
  obtain ⟨x, hx, items, hitems, rfl⟩ := exists_left_of_mem_forall₂ hd hy
  rw [Definition.ownPath_withItems] at hn
  rw [Definition.items_withItems] at hreach
  exact hself x hx n hn (reaches_of_unfolds hd hitems hreach)

end Document

theorem Estimator.estimate_congr {E : Estimator} {d d' : Document}
    (h : (d'.expand E.maxSelections).result = (d.expand E.maxSelections).result) :
    (E.estimate d').result = (E.estimate d).result := by
  have hexpand : (E.expand d').result = (E.expand d).result := by
    rw [expand, expand, Logged.result_mapError, Logged.result_mapError, h]
  rw [estimate, estimate, Logged.result_bind, Logged.result_bind, hexpand]

namespace Document

/-- If a document can be expanded, unfolding one of its spreads by hand leaves its expansion as it
is, and all its estimates too, whatever they go by. -/
theorem expand_of_unfoldsOnce (d d' o : Document) (limit : Nat) (hd : d.UnfoldsOnce d')
    (h : (d.expand limit).result = .ok o) :
    (d'.expand limit).result = .ok o ∧
      ∀ E : Estimator, (E.estimate d').result = (E.estimate d).result := by
  have h' := expand_of_unfolds hd.unfolds h
  refine ⟨h', fun E => Estimator.estimate_congr ?_⟩
  rw [expand_eq_ite h', expand_eq_ite h]

end Document

namespace Sample

/-- A fragment that is used twice, with a chain of fragments below it. -/
def chained : Document where
  definitions := [query [select "a" [spread "F"], spread "F"],
    fragment "F" "T" [select "b" [spread "Lost", spread "G"], spread "G"],
    fragment "G" "U" [spread "H"], fragment "H" "U" [select "y" []]]

/-- The first `G` in `F` is unfolded, the `H` in it is not. -/
def chainedByHand : Document where
  definitions := [query [select "a" [spread "F"], spread "F"],
    fragment "F" "T" [select "b" [spread "Lost", into "U" [spread "H"]], spread "G"],
    fragment "G" "U" [spread "H"], fragment "H" "U" [select "y" []]]

def chainedExpanded : Document where
  definitions := [query [select "a" [onT], onT], fragment "F" "T" inT, fragment "G" "U" [onU],
    fragment "H" "U" [select "y" []]]
where
  onU : Selection := into "U" [select "y" []]
  inT : List Selection := [select "b" [spread "Lost", into "U" [onU]], into "U" [onU]]
  onT : Selection := into "T" inT

theorem chained_unfoldsOnce : chained.UnfoldsOnce chainedByHand := by
  refine ⟨[query [select "a" [spread "F"], spread "F"]],
    fragment "F" "T" [select "b" [spread "Lost", spread "G"], spread "G"],
    [fragment "G" "U" [spread "H"], fragment "H" "U" [select "y" []]],
    [select "b" [spread "Lost", into "U" [spread "H"]], spread "G"], rfl, ?_, rfl⟩
  have hG : chained.fragment? "G" = some ⟨.start, "G", "U", [], span, [spread "H"]⟩ := rfl
  exact .inField _ _ _ (.later _ (.here .start [] [] hG))

theorem expand_chainedByHand :
    chained.UnfoldsOnce chainedByHand ∧ (chained.expand 30).result = .ok chainedExpanded ∧
    (chainedByHand.expand 30).result = .ok chainedExpanded ∧
      ∀ E : Estimator, (E.estimate chainedByHand).result = (E.estimate chained).result := by
  have h : (chained.expand 30).result = .ok chainedExpanded := by cbv
  exact ⟨chained_unfoldsOnce, h,
    Document.expand_of_unfoldsOnce chained chainedByHand chainedExpanded 30 chained_unfoldsOnce h⟩

end Sample

end QueryTariff
