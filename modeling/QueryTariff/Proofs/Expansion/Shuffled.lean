import QueryTariff.Proofs.Expansion.Slice
import Mathlib.Data.List.Perm.Basic

/-!
Documents in another order. Selections may change places within their selection sets, at any depth,
and definitions may change places as long as each name stands for the same fragment.

A swap of two selections is a swap in what they become (`itemsExpand_of_swapped`), so an expansion
that succeeds succeeds in any order, with the same selections in another order
(`expand_of_reordered`, `expand_of_shuffled`).
-/

namespace QueryTariff

open Selection

/-- Two neighbours have changed places, among the selections or somewhere below them. -/
inductive Selection.Swapped : List Selection → List Selection → Prop
  | here (x y : Selection) (rest : List Selection) : Swapped (x :: y :: rest) (y :: x :: rest)
  | later (x : Selection) {rest rest' : List Selection} : Swapped rest rest' →
    Swapped (x :: rest) (x :: rest')
  | field (h : FieldHead) (sp : Span) (rest : List Selection) {body body' : List Selection} :
    Swapped body body' → Swapped (.field h sp body :: rest) (.field h sp body' :: rest)
  | inlineFragment (p : Position) (on? : Option String) (ds : List Directive) (sp : Span)
    (rest : List Selection) {body body' : List Selection} : Swapped body body' →
    Swapped (.inlineFragment p on? ds sp body :: rest) (.inlineFragment p on? ds sp body' :: rest)

/-- The same selections in another order, at any depth. -/
def Selection.Shuffled : List Selection → List Selection → Prop := Relation.ReflTransGen Swapped

structure Operation.Shuffled (o o' : Operation) : Prop where
  head? : o'.head? = o.head?
  span : o'.body.span = o.body.span
  items : Selection.Shuffled o.body.items o'.body.items

structure Fragment.Shuffled (f f' : Fragment) : Prop where
  position : f'.position = f.position
  name : f'.name = f.name
  on : f'.on = f.on
  directives : f'.directives = f.directives
  span : f'.body.span = f.body.span
  items : Selection.Shuffled f.body.items f'.body.items

namespace Document

/-- The same definitions in another order, but that each name stands for the same fragment. -/
structure Reordered (d d' : Document) : Prop where
  definitions : d'.definitions.Perm d.definitions
  fragment? : ∀ n, d'.fragment? n = d.fragment? n

/-- The definitions correspond one by one, with their selections in another order. -/
abbrev SelectionsShuffled : Document → Document → Prop :=
  Corresponds Operation.Shuffled Fragment.Shuffled

/-- The definitions are in another order, and so are the selections in them. -/
def Shuffled (d d' : Document) : Prop := ∃ d₁, d.Reordered d₁ ∧ d₁.SelectionsShuffled d'

end Document

namespace Selection.Shuffled

variable {items items' body body' rest rest' : List Selection}

theorem later (x : Selection) (h : Shuffled rest rest') : Shuffled (x :: rest) (x :: rest') :=
  Relation.ReflTransGen.lift (x :: ·) (fun _ _ => Swapped.later x) _ _ h

theorem field (h : FieldHead) (sp : Span) (hbody : Shuffled body body')
    (hrest : Shuffled rest rest') :
    Shuffled (.field h sp body :: rest) (.field h sp body' :: rest') := by
  have hfirst : Shuffled (.field h sp body :: rest) (.field h sp body' :: rest) :=
    Relation.ReflTransGen.lift (fun inner => Selection.field h sp inner :: rest)
      (fun _ _ => Swapped.field h sp rest) _ _ hbody
  exact hfirst.trans (hrest.later _)

theorem inlineFragment (p : Position) (on? : Option String) (ds : List Directive) (sp : Span)
    (hbody : Shuffled body body') (hrest : Shuffled rest rest') :
    Shuffled (.inlineFragment p on? ds sp body :: rest)
      (.inlineFragment p on? ds sp body' :: rest') := by
  have hfirst : Shuffled (.inlineFragment p on? ds sp body :: rest)
      (.inlineFragment p on? ds sp body' :: rest) :=
    Relation.ReflTransGen.lift (fun inner => Selection.inlineFragment p on? ds sp inner :: rest)
      (fun _ _ => Swapped.inlineFragment p on? ds sp rest) _ _ hbody
  exact hfirst.trans (hrest.later _)

/-- Neighbours can be swapped until any order is reached. -/
theorem of_perm (h : items.Perm items') : Shuffled items items' := by
  induction h with
  | nil => exact .refl
  | cons x _ ih => exact ih.later x
  | swap x y rest => exact .single (.here y x rest)
  | trans _ _ ih₁ ih₂ => exact ih₁.trans ih₂

/-- What no swap changes, no order changes. -/
theorem eq_of_swapped {α : Type} {g : List Selection → α}
    (hg : ∀ {items items'}, Swapped items items' → g items' = g items)
    (h : Shuffled items items') : g items' = g items := by
  induction h with
  | refl => rfl
  | tail _ hswap ih => exact (hg hswap).trans ih

end Selection.Shuffled

namespace Selection

theorem count_cons (x : Selection) (rest : List Selection) :
    count (x :: rest) = count [x] + count rest := count_append [x] rest

theorem spreadNames_cons (x : Selection) (rest : List Selection) :
    spreadNames (x :: rest) = spreadNames [x] ++ spreadNames rest := spreadNames_append [x] rest

theorem Swapped.count {items items' : List Selection} (h : Swapped items items') :
    Selection.count items' = Selection.count items := by
  induction h with
  | here x y rest =>
    rw [count_cons y (x :: rest), count_cons x rest, count_cons x (y :: rest), count_cons y rest]
    omega
  | @later x rest rest' _ ih => rw [count_cons x rest', count_cons x rest, ih]
  | field h sp rest _ ih => rw [Selection.count, Selection.count, ih]
  | inlineFragment p on? ds sp rest _ ih => rw [Selection.count, Selection.count, ih]

theorem Swapped.mem_spreadNames {items items' : List Selection} (h : Swapped items items')
    (n : String) : n ∈ spreadNames items' ↔ n ∈ spreadNames items := by
  induction h with
  | here x y rest =>
    rw [spreadNames_cons y (x :: rest), spreadNames_cons x rest, spreadNames_cons x (y :: rest),
      spreadNames_cons y rest]
    simp only [List.mem_append]
    exact or_left_comm
  | @later x rest rest' _ ih =>
    rw [spreadNames_cons x rest', spreadNames_cons x rest, List.mem_append, List.mem_append, ih]
  | field h sp rest _ ih => rw [mem_spreadNames_field, mem_spreadNames_field, ih]
  | inlineFragment p on? ds sp rest _ ih =>
    rw [mem_spreadNames_inlineFragment, mem_spreadNames_inlineFragment, ih]

theorem Shuffled.count {items items' : List Selection} (h : Shuffled items items') :
    Selection.count items' = Selection.count items :=
  h.eq_of_swapped Swapped.count

theorem Shuffled.mem_spreadNames {items items' : List Selection} (h : Shuffled items items')
    (n : String) : n ∈ spreadNames items' ↔ n ∈ spreadNames items := by
  have hmem := h.eq_of_swapped (g := fun items => n ∈ spreadNames items)
    fun hswap => propext (hswap.mem_spreadNames n)
  exact Iff.of_eq hmem

end Selection

namespace Document

/-! ### What selections become in another order -/

section

variable {d d' : Document} {items items' out rest : List Selection}

/-- The first selection becomes one selection, whatever follows. -/
theorem itemsExpand_cons {x : Selection} :
    d.ItemsExpand (x :: rest) out ↔
      ∃ x' rest', d.ItemsExpand [x] [x'] ∧ d.ItemsExpand rest rest' ∧ out = x' :: rest' := by
  constructor
  · intro h
    cases h with
    | field h sp hbody hrest => exact ⟨_, _, .field h sp hbody .nil, hrest, rfl⟩
    | inlineFragment p on? ds sp hbody hrest =>
      exact ⟨_, _, .inlineFragment p on? ds sp hbody .nil, hrest, rfl⟩
    | undefined p ds hn hrest => exact ⟨_, _, .undefined p ds hn .nil, hrest, rfl⟩
    | spread p ds hf hbody hrest => exact ⟨_, _, .spread p ds hf hbody .nil, hrest, rfl⟩
  · rintro ⟨x', rest', hx, hrest, rfl⟩
    cases hx with
    | field h sp hbody _ => exact .field h sp hbody hrest
    | inlineFragment p on? ds sp hbody _ => exact .inlineFragment p on? ds sp hbody hrest
    | undefined p ds hn _ => exact .undefined p ds hn hrest
    | spread p ds hf hbody _ => exact .spread p ds hf hbody hrest

/-- Where two selections are swapped, what they become is swapped. -/
theorem itemsExpand_of_swapped (hswap : Swapped items items') (h : d.ItemsExpand items out) :
    ∃ out', d.ItemsExpand items' out' ∧ Swapped out out' := by
  induction hswap generalizing out with
  | here x y rest =>
    obtain ⟨x', out₁, hx, h₁, rfl⟩ := itemsExpand_cons.mp h
    obtain ⟨y', out₂, hy, h₂, rfl⟩ := itemsExpand_cons.mp h₁
    have hrest : d.ItemsExpand (x :: rest) (x' :: out₂) :=
      itemsExpand_cons.mpr ⟨x', out₂, hx, h₂, rfl⟩
    exact ⟨y' :: x' :: out₂, itemsExpand_cons.mpr ⟨y', _, hy, hrest, rfl⟩, .here x' y' out₂⟩
  | later x _ ih =>
    obtain ⟨x', out₁, hx, h₁, rfl⟩ := itemsExpand_cons.mp h
    obtain ⟨out', hout', hswap⟩ := ih h₁
    exact ⟨x' :: out', itemsExpand_cons.mpr ⟨x', out', hx, hout', rfl⟩, hswap.later x'⟩
  | field head sp rest _ ih =>
    cases h with
    | field _ _ hbody hrest =>
      obtain ⟨body', hbody', hswap⟩ := ih hbody
      exact ⟨_, .field head sp hbody' hrest, hswap.field head sp _⟩
  | inlineFragment p on? ds sp rest _ ih =>
    cases h with
    | inlineFragment _ _ _ _ hbody hrest =>
      obtain ⟨body', hbody', hswap⟩ := ih hbody
      exact ⟨_, .inlineFragment p on? ds sp hbody' hrest, hswap.inlineFragment p on? ds sp _⟩

theorem itemsExpand_of_shuffled (hitems : Selection.Shuffled items items')
    (h : d.ItemsExpand items out) :
    ∃ out', d.ItemsExpand items' out' ∧ Selection.Shuffled out out' := by
  induction hitems with
  | refl => exact ⟨out, h, .refl⟩
  | tail _ hswap ih =>
    obtain ⟨out₁, h₁, hshuffled⟩ := ih
    obtain ⟨out₂, h₂, hswap₂⟩ := itemsExpand_of_swapped hswap h₁
    exact ⟨out₂, h₂, hshuffled.tail hswap₂⟩

/-- With the fragments in another order within, selections become the same in another order. -/
theorem itemsExpand_of_shuffled_fragments (hd : d.SelectionsShuffled d')
    (h : d.ItemsExpand items out) :
    ∃ out', d'.ItemsExpand items out' ∧ Selection.Shuffled out out' := by
  induction h with
  | nil => exact ⟨[], .nil, .refl⟩
  | field head sp _ _ ihBody ihRest =>
    obtain ⟨body', hbody', hbody⟩ := ihBody
    obtain ⟨rest', hrest', hrest⟩ := ihRest
    exact ⟨_, .field head sp hbody' hrest', hbody.field head sp hrest⟩
  | inlineFragment p on? ds sp _ _ ihBody ihRest =>
    obtain ⟨body', hbody', hbody⟩ := ihBody
    obtain ⟨rest', hrest', hrest⟩ := ihRest
    exact ⟨_, .inlineFragment p on? ds sp hbody' hrest', hbody.inlineFragment p on? ds sp hrest⟩
  | undefined p ds hn _ ihRest =>
    obtain ⟨rest', hrest', hrest⟩ := ihRest
    have hn' := hd.fragment?_of_none (fun _ _ => Fragment.Shuffled.name) hn
    exact ⟨_, .undefined p ds hn' hrest', hrest.later _⟩
  | spread p ds hf _ _ ihBody ihRest =>
    -- The fragment's selections are expanded in the other document, and only then put in order.
    obtain ⟨f', hf', hff'⟩ := hd.fragment?_of_some (fun _ _ => Fragment.Shuffled.name) hf
    obtain ⟨body₁, hbody₁, hsame⟩ := ihBody
    obtain ⟨body₂, hbody₂, hother⟩ := itemsExpand_of_shuffled hff'.items hbody₁
    obtain ⟨rest', hrest', hrest⟩ := ihRest
    refine ⟨_, .spread p ds hf' hbody₂ hrest', ?_⟩
    have hbody : Selection.Shuffled _ body₂ := hsame.trans hother
    rw [hff'.on, hff'.span]
    exact hbody.inlineFragment p _ ds _ hrest

theorem definitionExpands_of_shuffled (hd : d.SelectionsShuffled d') {x x' y : Definition}
    (hx : Definition.Corresponds Operation.Shuffled Fragment.Shuffled x x')
    (h : d.DefinitionExpands x y) :
    ∃ y', d'.DefinitionExpands x' y' ∧
      Definition.Corresponds Operation.Shuffled Fragment.Shuffled y y' := by
  cases h with
  | operation p hitems =>
    cases hx with
    | operation hp =>
      obtain ⟨out₁, h₁, hsame⟩ := itemsExpand_of_shuffled_fragments hd hitems
      obtain ⟨out₂, h₂, hother⟩ := itemsExpand_of_shuffled hp.items h₁
      exact ⟨_, .operation _ h₂, .operation ⟨hp.head?, hp.span, hsame.trans hother⟩⟩
  | fragment f hitems =>
    cases hx with
    | fragment hf =>
      obtain ⟨out₁, h₁, hsame⟩ := itemsExpand_of_shuffled_fragments hd hitems
      obtain ⟨out₂, h₂, hother⟩ := itemsExpand_of_shuffled hf.items h₁
      exact ⟨_, .fragment _ h₂, .fragment
        ⟨hf.position, hf.name, hf.on, hf.directives, hf.span, hsame.trans hother⟩⟩

/-! ### Where selections lead in another order -/

theorem spreads_of_shuffled (hd : d.SelectionsShuffled d') {a b : String} (h : d'.Spreads a b) :
    d.Spreads a b := by
  obtain ⟨f', hf', hb⟩ := h
  cases hf : d.fragment? a with
  | none =>
    rw [hd.fragment?_of_none (fun _ _ => Fragment.Shuffled.name) hf] at hf'
    cases hf'
  | some f =>
    obtain ⟨g, hg, hfg⟩ := hd.fragment?_of_some (fun _ _ => Fragment.Shuffled.name) hf
    rw [hf'] at hg
    cases hg
    exact ⟨f, hf, (hfg.items.mem_spreadNames b).mp hb⟩

theorem reaches_of_shuffled (hd : d.SelectionsShuffled d')
    (hitems : Selection.Shuffled items items') {n : String} (h : d'.Reaches items' n) :
    d.Reaches items n := by
  obtain ⟨m, hm, hmn⟩ := h
  refine ⟨m, (hitems.mem_spreadNames m).mp hm, ?_⟩
  exact Relation.ReflTransGen.mono (fun _ _ => spreads_of_shuffled hd) _ _ hmn

end

end Document

/-! ### Expansions in another order -/

theorem exists_forall₂_of_forall₂ {α β γ δ : Type} {R : α → β → Prop} {S : α → γ → Prop}
    {R' : γ → δ → Prop} {S' : β → δ → Prop} {xs : List α} {xs' : List β} {ys : List γ}
    (hR : List.Forall₂ R xs xs') (hS : List.Forall₂ S xs ys)
    (hstep : ∀ x x' y, R x x' → S x y → ∃ y', S' x' y' ∧ R' y y') :
    ∃ ys', List.Forall₂ S' xs' ys' ∧ List.Forall₂ R' ys ys' := by
  induction hR generalizing ys with
  | nil =>
    cases hS
    exact ⟨[], .nil, .nil⟩
  | cons hx _ ih =>
    cases hS with
    | cons hy hys =>
      obtain ⟨y', hy', hyy'⟩ := hstep _ _ _ hx hy
      obtain ⟨ys', hys', hrest⟩ := ih hys
      exact ⟨y' :: ys', .cons hy' hys', .cons hyy' hrest⟩

namespace Definition

theorem selectionCount_of_perm {xs ys : List Definition} (h : xs.Perm ys) :
    selectionCount xs = selectionCount ys := by
  induction h with
  | nil => rfl
  | cons x _ ih => rw [selectionCount, selectionCount, ih]
  | swap x y xs =>
    simp only [selectionCount]
    omega
  | trans _ _ ih₁ ih₂ => exact ih₁.trans ih₂

theorem selectionCount_of_shuffled {xs ys : List Definition}
    (h : List.Forall₂ (Corresponds Operation.Shuffled Fragment.Shuffled) xs ys) :
    selectionCount ys = selectionCount xs := by
  induction h with
  | nil => rfl
  | @cons x y _ _ hxy _ ih =>
    have hcount : Selection.count y.body.items = Selection.count x.body.items := by
      cases hxy with
      | operation hp => exact hp.items.count
      | fragment hf => exact hf.items.count
    rw [selectionCount, selectionCount, ih, hcount]

end Definition

namespace Document

variable {d d' o : Document} {limit : Nat}

/-- Definitions in another order are expanded as before, each in its place. -/
theorem expand_of_reordered (hd : d.Reordered d') (h : (d.expand limit).result = .ok o) :
    ∃ o', (d'.expand limit).result = .ok o' ∧ o'.definitions.Perm o.definitions := by
  obtain ⟨hfull, hlimit, hself⟩ := (expand_eq_ok_iff d o limit).mp h
  obtain ⟨ys, hys, hperm⟩ := List.perm_comp_forall₂ hd.definitions hfull
  refine ⟨⟨ys⟩, (expand_eq_ok_iff _ _ _).mpr ⟨?_, ?_, ?_⟩, hperm⟩
  · refine List.Forall₂.imp ?_ hys
    intro x y hxy
    obtain ⟨items, hitems, rfl⟩ := definitionExpands_iff.mp hxy
    have hitems' : d'.ItemsExpand x.body.items items :=
      itemsExpand_of_agree hitems fun n _ => hd.fragment? n
    exact definitionExpands_iff.mpr ⟨items, hitems', rfl⟩
  · have hcount : selectionCount ⟨ys⟩ = o.selectionCount := Definition.selectionCount_of_perm hperm
    omega
  · intro x hx n hn hreaches
    have hagree : ∀ m f, d'.fragment? m = some f → d.fragment? m = some f := by
      intro m f hf
      rw [← hd.fragment? m, hf]
    exact hself x (hd.definitions.mem_iff.mp hx) n hn (hreaches.mono hagree)

/-- With its selections in another order a document is expanded to the same selections in another
order. -/
theorem expand_of_shuffled (hd : d.SelectionsShuffled d') (h : (d.expand limit).result = .ok o) :
    ∃ o', (d'.expand limit).result = .ok o' ∧ o.SelectionsShuffled o' := by
  obtain ⟨hfull, hlimit, hself⟩ := (expand_eq_ok_iff d o limit).mp h
  obtain ⟨ys, hys, hshuffled⟩ := exists_forall₂_of_forall₂ hd hfull
    fun _ _ _ hx hxy => definitionExpands_of_shuffled hd hx hxy
  refine ⟨⟨ys⟩, (expand_eq_ok_iff _ _ _).mpr ⟨hys, ?_, ?_⟩, hshuffled⟩
  · have hcount : selectionCount ⟨ys⟩ = o.selectionCount :=
      Definition.selectionCount_of_shuffled hshuffled
    omega
  · intro x' hx' n hn hreaches
    obtain ⟨x, hx, hxx'⟩ := exists_left_of_mem_forall₂ hd hx'
    cases hxx' with
    | operation _ => cases hn
    | fragment hf =>
      rw [Definition.ownPath, hf.name] at hn
      exact hself _ hx n hn (reaches_of_shuffled hd hf.items hreaches)

end Document

end QueryTariff
