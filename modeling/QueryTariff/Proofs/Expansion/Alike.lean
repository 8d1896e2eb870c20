import QueryTariff.Proofs.Expansion.Correspondence
import QueryTariff.Proofs.Expansion.Threshold

/-!
Documents that are alike: their definitions correspond, and so do the selections in them, with
fields that a relation `R` holds between. Where things stand in the text, directives and the
parameters of operations may differ.

Alike documents fail to expand for the same reason or become alike documents again
(`expand_of_alike`): a body is copied to the same places in both.
-/

namespace QueryTariff

variable {R : FieldHead → FieldHead → Prop}

/-- The same selections, wherever they stand and with whatever directives, but that `R` relates a
field to its counterpart. -/
inductive Selection.Alike (R : FieldHead → FieldHead → Prop) :
    List Selection → List Selection → Prop
  | nil : Alike R [] []
  | field {h h' : FieldHead} (sp sp' : Span) {body body' rest rest' : List Selection} :
    R h h' → Alike R body body' → Alike R rest rest' →
    Alike R (.field h sp body :: rest) (.field h' sp' body' :: rest')
  | spread (p p' : Position) (n : String) (ds ds' : List Directive) {rest rest' : List Selection} :
    Alike R rest rest' → Alike R (.spread p n ds :: rest) (.spread p' n ds' :: rest')
  | inlineFragment (p p' : Position) (on? : Option String) (ds ds' : List Directive)
    (sp sp' : Span) {body body' rest rest' : List Selection} :
    Alike R body body' → Alike R rest rest' →
    Alike R (.inlineFragment p on? ds sp body :: rest)
      (.inlineFragment p' on? ds' sp' body' :: rest')

structure Operation.Alike (R : FieldHead → FieldHead → Prop) (o o' : Operation) : Prop where
  kind : o'.kind = o.kind
  name? : o'.name? = o.name?
  items : Selection.Alike R o.body.items o'.body.items

structure Fragment.Alike (R : FieldHead → FieldHead → Prop) (f f' : Fragment) : Prop where
  name : f'.name = f.name
  on : f'.on = f.on
  items : Selection.Alike R f.body.items f'.body.items

abbrev Definition.Alike (R : FieldHead → FieldHead → Prop) : Definition → Definition → Prop :=
  Definition.Corresponds (Operation.Alike R) (Fragment.Alike R)

abbrev Document.Alike (R : FieldHead → FieldHead → Prop) : Document → Document → Prop :=
  Document.Corresponds (Operation.Alike R) (Fragment.Alike R)

namespace Definition.Alike

variable {x y : Definition}

theorem items (h : Definition.Alike R x y) : Selection.Alike R x.body.items y.body.items := by
  cases h with
  | operation h => exact h.items
  | fragment h => exact h.items

theorem ownPath (h : Definition.Alike R x y) : y.ownPath = x.ownPath := by
  cases h with
  | operation _ => rfl
  | fragment h => exact congrArg (fun n => [n]) h.name

theorem withItems (h : Definition.Alike R x y) {items items' : List Selection}
    (hitems : Selection.Alike R items items') :
    Definition.Alike R (x.withItems items) (y.withItems items') := by
  cases h with
  | operation h => exact .operation ⟨h.kind, h.name?, hitems⟩
  | fragment h => exact .fragment ⟨h.name, h.on, hitems⟩

end Definition.Alike

namespace Expansion

/-- The same count, with the same cycle or with answers that `Q` relates. -/
inductive Counted.Rel {α β : Type} (Q : α → β → Prop) : Counted α → Counted β → Prop
  | ok (count : Nat) {a : α} {b : β} : Q a b → Rel Q ⟨count, .ok a⟩ ⟨count, .ok b⟩
  | error (count : Nat) (c : List String) : Rel Q ⟨count, .error c⟩ ⟨count, .error c⟩

namespace Counted.Rel

variable {α β γ δ : Type} {Q : α → β → Prop} {S : γ → δ → Prop}

theorem count_eq {x : Counted α} {y : Counted β} (h : Rel Q x y) : y.count = x.count := by
  cases h <;> rfl

theorem result {x : Counted α} {y : Counted β} (h : Rel Q x y) :
    (∃ a b, x.result = .ok a ∧ y.result = .ok b ∧ Q a b) ∨
      ∃ c, x.result = .error c ∧ y.result = .error c := by
  cases h with
  | ok count hab => exact .inl ⟨_, _, rfl, rfl, hab⟩
  | error count c => exact .inr ⟨c, rfl, rfl⟩

theorem pure {a : α} {b : β} (h : Q a b) :
    Rel Q (Pure.pure a : Counted α) (Pure.pure b : Counted β) := .ok 0 h

theorem bind {x : Counted α} {y : Counted β} {f : α → Counted γ} {g : β → Counted δ}
    (h : Rel Q x y) (hfg : ∀ a b, Q a b → Rel S (f a) (g b)) : Rel S (x >>= f) (y >>= g) := by
  cases h with
  | error count c => exact .error count c
  | @ok count a b hab =>
    show Rel S ⟨count + (f a).count, (f a).result⟩ ⟨count + (g b).count, (g b).result⟩
    have hstep := hfg a b hab
    generalize f a = x at hstep ⊢
    generalize g b = y at hstep ⊢
    cases hstep with
    | ok n hab => exact .ok (count + n) hab
    | error n c => exact .error (count + n) c

theorem node {wrap wrap' : List Selection → Selection}
    {body body' rest rest' : Counted (List Selection)}
    (hbody : Rel (Selection.Alike R) body body') (hrest : Rel (Selection.Alike R) rest rest')
    (hwrap : ∀ inner inner' after after', Selection.Alike R inner inner' →
      Selection.Alike R after after' →
      Selection.Alike R (wrap inner :: after) (wrap' inner' :: after')) :
    Rel (Selection.Alike R) (Counted.node wrap body rest) (Counted.node wrap' body' rest') := by
  have hone : Rel (fun _ _ => True) Counted.one Counted.one := .ok 1 trivial
  refine hone.bind fun _ _ _ => hbody.bind fun inner inner' hinner => ?_
  exact hrest.bind fun after after' hafter => .pure (hwrap inner inner' after after' hinner hafter)

end Counted.Rel

section

variable {d d' : Document}

/-- Selections that are alike are expanded alike, for a name stands for alike fragments. -/
theorem unlimited_of_alike (hd : d.Alike R d') (path : List String) {items items' : List Selection}
    (h : Selection.Alike R items items') :
    Counted.Rel (Selection.Alike R) (unlimited (FragmentTable.ofDocument d) path items)
      (unlimited (FragmentTable.ofDocument d') path items') := by
  induction path, items using unlimited.induct (FragmentTable.ofDocument d) generalizing items' with
  | case1 path =>
    cases h
    rw [unlimited, unlimited]
    exact .pure .nil
  | case2 path head sp body rest ihBody ihRest =>
    cases h with
    | field _ sp' hhead hbody hrest =>
      rw [unlimited, unlimited]
      exact (ihBody hbody).node (ihRest hrest) fun _ _ _ _ => .field sp sp' hhead
  | case3 path p on? ds sp body rest ihBody ihRest =>
    cases h with
    | inlineFragment _ p' _ _ ds' _ sp' hbody hrest =>
      rw [unlimited, unlimited]
      exact (ihBody hbody).node (ihRest hrest) fun _ _ _ _ =>
        .inlineFragment p p' on? ds ds' sp sp'
  | case4 path p n ds rest hf ih =>
    cases h with
    | spread _ p' _ _ ds' hrest =>
      have hf' := hd.get?_of_none (fun _ _ => Fragment.Alike.name) hf
      rw [unlimited_undefined p ds rest hf, unlimited_undefined p' ds' _ hf']
      exact (Counted.Rel.pure .nil).node (ih hrest) fun _ _ _ _ _ => .spread p p' n ds ds'
  | case5 path p n ds rest f hf hp =>
    cases h with
    | spread _ p' _ _ ds' hrest =>
      obtain ⟨f', hf', -⟩ := hd.get?_of_some (fun _ _ => Fragment.Alike.name) hf
      rw [unlimited_cyclic p ds rest hf hp, unlimited_cyclic p' ds' _ hf' hp]
      exact .error 1 (cycleAt path n)
  | case6 path p n ds rest f hf hp ihBody ihRest =>
    cases h with
    | spread _ p' _ _ ds' hrest =>
      obtain ⟨f', hf', hff'⟩ := hd.get?_of_some (fun _ _ => Fragment.Alike.name) hf
      rw [unlimited_spread p ds rest hf hp, unlimited_spread p' ds' _ hf' hp, hff'.on]
      exact (ihBody hff'.items).node (ihRest hrest) fun _ _ _ _ =>
        .inlineFragment p p' (some f.on) ds ds' f.body.span f'.body.span

theorem unlimitedDefinition_of_alike (hd : d.Alike R d') {x y : Definition}
    (h : Definition.Alike R x y) :
    Counted.Rel (Definition.Alike R) (unlimitedDefinition (FragmentTable.ofDocument d) x)
      (unlimitedDefinition (FragmentTable.ofDocument d') y) := by
  rw [unlimitedDefinition_eq, unlimitedDefinition_eq, h.ownPath]
  exact (unlimited_of_alike hd x.ownPath h.items).bind fun _ _ hitems => .pure (h.withItems hitems)

theorem unlimitedDefinitions_of_alike (hd : d.Alike R d') {xs ys : List Definition}
    (h : List.Forall₂ (Definition.Alike R) xs ys) :
    Counted.Rel (List.Forall₂ (Definition.Alike R))
      (unlimitedDefinitions (FragmentTable.ofDocument d) xs)
      (unlimitedDefinitions (FragmentTable.ofDocument d') ys) := by
  induction h with
  | nil => exact .pure .nil
  | cons hxy _ ih =>
    refine (unlimitedDefinition_of_alike hd hxy).bind fun x' y' hx' => ?_
    exact ih.bind fun xs' ys' hxs' => .pure (.cons hx' hxs')

end

end Expansion

namespace Document

/-- Alike documents become alike documents or fail for the same reason. -/
theorem expand_of_alike {d d' : Document} (h : d.Alike R d') (limit : Nat) :
    (∃ o o', (d.expand limit).result = .ok o ∧ (d'.expand limit).result = .ok o' ∧ o.Alike R o') ∨
      ∃ e, (d.expand limit).result = .error e ∧ (d'.expand limit).result = .error e := by
  have hrel : Expansion.Counted.Rel (List.Forall₂ (Definition.Alike R)) d.unlimited d'.unlimited :=
    Expansion.unlimitedDefinitions_of_alike h h
  have hcount := hrel.count_eq
  by_cases hlimit : d.unlimited.count ≤ limit
  · have hlimit' : d'.unlimited.count ≤ limit := by omega
    rcases hrel.result with ⟨ds, ds', hds, hds', halike⟩ | ⟨c, hc, hc'⟩
    · refine .inl ⟨⟨ds⟩, ⟨ds'⟩, ?_, ?_, halike⟩
      · rw [expand_of_le hlimit, hds]
        rfl
      · rw [expand_of_le hlimit', hds']
        rfl
    · refine .inr ⟨.cyclic c, ?_, ?_⟩
      · rw [expand_of_le hlimit, hc]
        rfl
      · rw [expand_of_le hlimit', hc']
        rfl
  · exact .inr ⟨.tooManySelections limit, expand_of_lt (by omega), expand_of_lt (by omega)⟩

end Document

end QueryTariff
