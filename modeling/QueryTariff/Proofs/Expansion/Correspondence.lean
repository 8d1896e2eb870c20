import QueryTariff.Proofs.Expansion.SpreadGraph
import Mathlib.Data.List.Forall2

/-!
Documents whose definitions correspond one by one. A name then stands for corresponding fragments in
both, and both tables have the same names in the same order.
-/

namespace QueryTariff

/-- Operations correspond by `P` and fragments by `Q`. -/
inductive Definition.Corresponds (P : Operation → Operation → Prop)
    (Q : Fragment → Fragment → Prop) : Definition → Definition → Prop
  | operation {o o' : Operation} : P o o' → Corresponds P Q (.operation o) (.operation o')
  | fragment {f f' : Fragment} : Q f f' → Corresponds P Q (.fragment f) (.fragment f')

def Document.Corresponds (P : Operation → Operation → Prop) (Q : Fragment → Fragment → Prop)
    (d d' : Document) : Prop :=
  List.Forall₂ (Definition.Corresponds P Q) d.definitions d'.definitions

theorem exists_left_of_mem_forall₂ {α β : Type} {R : α → β → Prop} {xs : List α} {ys : List β}
    (h : List.Forall₂ R xs ys) {y : β} (hy : y ∈ ys) : ∃ x ∈ xs, R x y := by
  induction h with
  | nil => simp at hy
  | @cons a b _ _ hab _ ih =>
    rcases List.mem_cons.mp hy with rfl | hy
    · exact ⟨a, by simp, hab⟩
    · obtain ⟨x, hx, hxy⟩ := ih hy
      exact ⟨x, by simp [hx], hxy⟩

theorem exists_sublist_of_forall₂ {α β : Type} {R : α → β → Prop} {xs xs' : List α} {ys : List β}
    (h : List.Forall₂ R xs ys) (hxs : xs'.Sublist xs) :
    ∃ ys', List.Forall₂ R xs' ys' ∧ ys'.Sublist ys := by
  induction hxs generalizing ys with
  | slnil => exact ⟨[], .nil, List.nil_sublist ys⟩
  | cons x _ ih =>
    cases h with
    | cons _ h =>
      obtain ⟨ys', hys', hsublist⟩ := ih h
      exact ⟨ys', hys', hsublist.cons _⟩
  | cons_cons x _ ih =>
    cases h with
    | cons hxy h =>
      obtain ⟨ys', hys', hsublist⟩ := ih h
      exact ⟨_ :: ys', .cons hxy hys', hsublist.cons_cons _⟩

namespace FragmentTable

theorem keys_add (F : FragmentTable) (f : Fragment) :
    (F.add f).keys = if f.name ∈ F.keys then F.keys else F.keys ++ [f.name] := by
  have hc : F.contains f.name = true ↔ f.name ∈ F.keys := F.isSome_get?_iff f.name
  unfold add
  by_cases hf : f.name ∈ F.keys
  · rw [if_pos (hc.mpr hf), if_pos hf]
  · have hput := NameMap.keys_put f.name f F.entries
    rw [if_neg (fun h => hf (hc.mp h)), if_neg hf]
    exact hput.trans (if_neg hf)

theorem keys_foldl_add {fs gs : List Fragment} (h : List.Forall₂ (fun f g => g.name = f.name) fs gs)
    {F G : FragmentTable} (hkeys : G.keys = F.keys) :
    (gs.foldl add G).keys = (fs.foldl add F).keys := by
  induction h generalizing F G with
  | nil => exact hkeys
  | cons hname _ ih =>
    apply ih
    rw [keys_add, keys_add, hname, hkeys]

end FragmentTable

namespace Document.Corresponds

variable {P : Operation → Operation → Prop} {Q : Fragment → Fragment → Prop} {d d' : Document}

theorem operations (h : Corresponds P Q d d') : List.Forall₂ P d.operations d'.operations := by
  refine List.rel_filterMap ?_ h
  intro x y hxy
  cases hxy with
  | operation ho => exact .some ho
  | fragment _ => exact .none

theorem fragments (h : Corresponds P Q d d') : List.Forall₂ Q d.fragments d'.fragments := by
  refine List.rel_filterMap ?_ h
  intro x y hxy
  cases hxy with
  | operation _ => exact .none
  | fragment hf => exact .some hf

theorem find?_rel (hQ : ∀ f f', Q f f' → f'.name = f.name) {fs gs : List Fragment}
    (h : List.Forall₂ Q fs gs) (n : String) :
    Option.Rel Q (fs.find? (·.name = n)) (gs.find? (·.name = n)) := by
  induction h with
  | nil => exact .none
  | @cons f f' _ _ hf _ ih =>
    rw [List.find?_cons, List.find?_cons, hQ f f' hf]
    by_cases hn : f.name = n
    · simpa [hn] using Option.Rel.some hf
    · simpa [hn] using ih

theorem fragment?_of_some (hQ : ∀ f f', Q f f' → f'.name = f.name) (h : Corresponds P Q d d')
    {n : String} {f : Fragment} (hf : d.fragment? n = some f) :
    ∃ f', d'.fragment? n = some f' ∧ Q f f' := by
  have hrel : Option.Rel Q (d.fragment? n) (d'.fragment? n) := find?_rel hQ h.fragments n
  generalize d'.fragment? n = x at hrel ⊢
  rw [hf] at hrel
  cases hrel with
  | some hff' => exact ⟨_, rfl, hff'⟩

theorem fragment?_of_none (hQ : ∀ f f', Q f f' → f'.name = f.name) (h : Corresponds P Q d d')
    {n : String} (hn : d.fragment? n = none) : d'.fragment? n = none := by
  have hrel : Option.Rel Q (d.fragment? n) (d'.fragment? n) := find?_rel hQ h.fragments n
  generalize d'.fragment? n = x at hrel ⊢
  rw [hn] at hrel
  cases hrel
  rfl

theorem get?_of_some (hQ : ∀ f f', Q f f' → f'.name = f.name) (h : Corresponds P Q d d')
    {n : String} {f : Fragment} (hf : (FragmentTable.ofDocument d).get? n = some f) :
    ∃ f', (FragmentTable.ofDocument d').get? n = some f' ∧ Q f f' := by
  rw [FragmentTable.get?_ofDocument] at hf ⊢
  exact h.fragment?_of_some hQ hf

theorem get?_of_none (hQ : ∀ f f', Q f f' → f'.name = f.name) (h : Corresponds P Q d d')
    {n : String} (hn : (FragmentTable.ofDocument d).get? n = none) :
    (FragmentTable.ofDocument d').get? n = none := by
  rw [FragmentTable.get?_ofDocument] at hn ⊢
  exact h.fragment?_of_none hQ hn

theorem keys (hQ : ∀ f f', Q f f' → f'.name = f.name) (h : Corresponds P Q d d') :
    (FragmentTable.ofDocument d').keys = (FragmentTable.ofDocument d).keys :=
  FragmentTable.keys_foldl_add (h.fragments.imp hQ) rfl

end Document.Corresponds

end QueryTariff
