import QueryTariff.Proofs.Expansion.Success

/-!
The part of a document that the operations of one name need: these operations, and of the fragments
that they lead to the ones that the names stand for. What needs no other fragment is expanded without
them as with them (`itemsExpand_of_agree`), so a document that can be expanded has a slice that can
be expanded, with the same operations of that name (`expand_slice`).
-/

namespace QueryTariff

open Selection

theorem FragmentTable.unvisited_append_le (F : FragmentTable) (path : List String) (n : String) :
    F.unvisited (path ++ [n]) ≤ F.unvisited path := by
  apply List.countP_mono_left
  intro m _ hm
  simp only [List.mem_append, decide_eq_true_eq] at hm ⊢
  exact fun h => hm (.inl h)

namespace Document

/-! ### All names that some lead to -/

section
variable (d : Document)

/-- The spreads in the fragment that a name stands for. -/
def spreadsIn (n : String) : List String :=
  match (FragmentTable.ofDocument d).get? n with
  | none => []
  | some f => spreadNames f.body.items

theorem mem_spreadsIn {m n : String} : n ∈ d.spreadsIn m ↔ d.Spreads m n := by
  rw [spreadsIn, FragmentTable.get?_ofDocument, Spreads]
  cases d.fragment? m <;> simp

theorem spreadsIn_decreasing {n : String} {seen : List String} (todo : List String)
    (hn : n ∉ seen) :
    Prod.Lex (· < ·) (· < ·)
      ((FragmentTable.ofDocument d).unvisited (seen ++ [n]), (d.spreadsIn n ++ todo).length)
      ((FragmentTable.ofDocument d).unvisited seen, (n :: todo).length) := by
  cases hf : (FragmentTable.ofDocument d).get? n with
  | some f => exact .left _ _ (FragmentTable.unvisited_lt hf hn)
  | none =>
    -- A name that stands for nothing is one name fewer to look at.
    have hnone : d.spreadsIn n = [] := by simp [spreadsIn, hf]
    rw [hnone]
    exact .right' _ (FragmentTable.unvisited_append_le _ seen n) (Nat.lt_succ_self _)

/-- Adds the names that are still to be looked at, and all that they lead to, to those seen. -/
def reachedFrom (seen todo : List String) : List String :=
  match todo with
  | [] => seen
  | n :: todo =>
    if _hn : n ∈ seen then reachedFrom seen todo
    else reachedFrom (seen ++ [n]) (d.spreadsIn n ++ todo)
termination_by ((FragmentTable.ofDocument d).unvisited seen, todo.length)
decreasing_by
  · exact .right _ (Nat.lt_succ_self _)
  · exact spreadsIn_decreasing d todo _hn

theorem reachedFrom_sound {n : String} {seen todo : List String} (h : n ∈ d.reachedFrom seen todo) :
    n ∈ seen ∨ ∃ m ∈ todo, Relation.ReflTransGen d.Spreads m n := by
  induction seen, todo using reachedFrom.induct d with
  | case1 seen =>
    rw [reachedFrom] at h
    exact .inl h
  | case2 seen m todo hm ih =>
    rw [reachedFrom, dif_pos hm] at h
    rcases ih h with hseen | ⟨k, hk, hkn⟩
    · exact .inl hseen
    · exact .inr ⟨k, List.mem_cons_of_mem m hk, hkn⟩
  | case3 seen m todo hm ih =>
    rw [reachedFrom, dif_neg hm] at h
    rcases ih h with hseen | ⟨k, hk, hkn⟩
    · rcases List.mem_append.mp hseen with hseen | hseen
      · exact .inl hseen
      · rw [List.mem_singleton.mp hseen]
        exact .inr ⟨m, List.mem_cons_self, .refl⟩
    · rcases List.mem_append.mp hk with hk | hk
      · exact .inr ⟨m, List.mem_cons_self, .head (d.mem_spreadsIn.mp hk) hkn⟩
      · exact .inr ⟨k, List.mem_cons_of_mem m hk, hkn⟩

/-- Whatever is spread in what was seen was seen or is still to be looked at. -/
def Followed (seen todo : List String) : Prop :=
  ∀ m ∈ seen, ∀ n, d.Spreads m n → n ∈ seen ∨ n ∈ todo

theorem reachedFrom_closed {seen todo : List String} (h : d.Followed seen todo) :
    (∀ n ∈ seen, n ∈ d.reachedFrom seen todo) ∧ (∀ n ∈ todo, n ∈ d.reachedFrom seen todo) ∧
      d.Followed (d.reachedFrom seen todo) [] := by
  induction seen, todo using reachedFrom.induct d with
  | case1 seen =>
    rw [reachedFrom]
    exact ⟨fun n hn => hn, nofun, h⟩
  | case2 seen m todo hm ih =>
    have hfollowed : d.Followed seen todo := by
      intro a ha b hab
      rcases h a ha b hab with hb | hb
      · exact .inl hb
      · rcases List.mem_cons.mp hb with rfl | hb
        · exact .inl hm
        · exact .inr hb
    obtain ⟨hseen, htodo, hclosed⟩ := ih hfollowed
    rw [reachedFrom, dif_pos hm]
    exact ⟨hseen, List.forall_mem_cons.mpr ⟨hseen m hm, htodo⟩, hclosed⟩
  | case3 seen m todo hm ih =>
    have hfollowed : d.Followed (seen ++ [m]) (d.spreadsIn m ++ todo) := by
      intro a ha b hab
      simp only [List.mem_append, List.mem_singleton] at ha ⊢
      rcases ha with ha | rfl
      · rcases h a ha b hab with hb | hb
        · exact .inl (.inl hb)
        · rcases List.mem_cons.mp hb with rfl | hb
          · exact .inl (.inr rfl)
          · exact .inr (.inr hb)
      · exact .inr (.inl (d.mem_spreadsIn.mpr hab))
    obtain ⟨hseen, htodo, hclosed⟩ := ih hfollowed
    rw [reachedFrom, dif_neg hm]
    refine ⟨fun n hn => hseen n (List.mem_append_left _ hn), ?_, hclosed⟩
    exact List.forall_mem_cons.mpr ⟨hseen m (by simp),
      fun n hn => htodo n (List.mem_append_right _ hn)⟩

theorem mem_reachedFrom_iff {n : String} {todo : List String} :
    n ∈ d.reachedFrom [] todo ↔ ∃ m ∈ todo, Relation.ReflTransGen d.Spreads m n := by
  constructor
  · intro h
    exact (d.reachedFrom_sound h).resolve_left nofun
  · rintro ⟨m, hm, hmn⟩
    have hstart : d.Followed [] todo := nofun
    obtain ⟨-, htodo, hclosed⟩ := d.reachedFrom_closed hstart
    induction hmn with
    | refl => exact htodo m hm
    | tail _ hab ih => exact (hclosed _ ih _ hab).resolve_right nofun

end

/-! ### Slices -/

/-- An operation of the name leads to the fragment `n`. -/
def Needs (d : Document) (name n : String) : Prop :=
  ∃ p ∈ d.operations, p.name? = some name ∧ d.Reaches p.body.items n

theorem mem_reachedFrom_operations {d : Document} {name n : String} :
    n ∈ d.reachedFrom []
        ((d.operations.filter (·.name? = some name)).flatMap (spreadNames ·.body.items)) ↔
      d.Needs name n := by
  simp only [mem_reachedFrom_iff, List.mem_flatMap, List.mem_filter, decide_eq_true_eq, Needs,
    Reaches]
  constructor
  · rintro ⟨m, ⟨p, ⟨hp, hname⟩, hm⟩, hmn⟩
    exact ⟨p, hp, hname, m, hm, hmn⟩
  · rintro ⟨p, hp, hname, m, hm, hmn⟩
    exact ⟨m, ⟨p, ⟨hp, hname⟩, hm⟩, hmn⟩

instance (d : Document) (name n : String) : Decidable (d.Needs name n) :=
  decidable_of_iff _ mem_reachedFrom_operations

end Document

namespace Definition

/-- The operations, and of the fragments the first of each name that was not seen before. -/
def firsts (seen : List String) : List Definition → List Definition
  | [] => []
  | .operation o :: xs => .operation o :: firsts seen xs
  | .fragment f :: xs =>
    if f.name ∈ seen then firsts seen xs else .fragment f :: firsts (f.name :: seen) xs

theorem firsts_sublist (seen : List String) (xs : List Definition) :
    (firsts seen xs).Sublist xs := by
  fun_induction firsts seen xs with
  | case1 => exact .slnil
  | case2 _ _ _ ih => exact ih.cons_cons _
  | case3 _ _ _ _ ih => exact ih.cons _
  | case4 _ _ _ _ ih => exact ih.cons_cons _

theorem operations_firsts (seen : List String) (xs : List Definition) :
    (⟨firsts seen xs⟩ : Document).operations = (⟨xs⟩ : Document).operations := by
  fun_induction firsts seen xs with
  | case1 => rfl
  | case2 _ o _ ih => exact congrArg (o :: ·) ih
  | case3 _ _ _ _ ih => exact ih
  | case4 _ _ _ _ ih => exact ih

theorem fragment?_firsts (seen : List String) (xs : List Definition) (n : String) :
    (⟨firsts seen xs⟩ : Document).fragment? n =
      if n ∈ seen then none else (⟨xs⟩ : Document).fragment? n := by
  fun_induction firsts seen xs with
  | case1 => simp [Document.fragment?, Document.fragments]
  | case2 _ _ _ ih => exact ih
  | case3 seen f xs hf ih =>
    rw [ih, Document.fragment?_cons]
    by_cases hn : f.name = n
    · subst hn
      simp [hf]
    · simp [hn]
  | case4 seen f xs hf ih =>
    rw [Document.fragment?_cons, Document.fragment?_cons, ih]
    by_cases hn : f.name = n
    · subst hn
      simp [hf]
    · simp [hn, Ne.symm hn]

theorem fragment?_of_mem_firsts {seen : List String} {xs : List Definition} {f : Fragment}
    (h : .fragment f ∈ firsts seen xs) :
    f.name ∉ seen ∧ (⟨xs⟩ : Document).fragment? f.name = some f := by
  fun_induction firsts seen xs with
  | case1 => cases h
  | case2 _ o _ ih =>
    have htail := (List.mem_cons.mp h).resolve_left nofun
    exact ih htail
  | case3 seen g xs hg ih =>
    obtain ⟨hseen, hf⟩ := ih h
    have hne : g.name ≠ f.name := fun heq => hseen (heq ▸ hg)
    rw [Document.fragment?_cons, if_neg hne]
    exact ⟨hseen, hf⟩
  | case4 seen g xs hg ih =>
    rcases List.mem_cons.mp h with heq | htail
    · cases heq
      rw [Document.fragment?_cons, if_pos rfl]
      exact ⟨hg, rfl⟩
    · obtain ⟨hseen, hf⟩ := ih htail
      rw [List.mem_cons, not_or] at hseen
      rw [Document.fragment?_cons, if_neg (Ne.symm hseen.1)]
      exact ⟨hseen.2, hf⟩

end Definition

namespace Document

/-- The definition is an operation of the name, or a fragment that such an operation leads to. -/
def isNeeded (d : Document) (name : String) : Definition → Bool
  | .operation o => o.name? = some name
  | .fragment f => d.Needs name f.name

/-- The operations of one name, and the first of the fragments of each name that they lead to. -/
def slice (d : Document) (name : String) : Document :=
  ⟨(Definition.firsts [] d.definitions).filter (d.isNeeded name)⟩

variable {d o : Document} {name : String} {limit : Nat}

theorem slice_sublist (d : Document) (name : String) :
    (d.slice name).definitions.Sublist d.definitions :=
  List.filter_sublist.trans (Definition.firsts_sublist [] d.definitions)

theorem operations_slice (d : Document) (name : String) :
    (d.slice name).operations = d.operations.filter (·.name? = some name) := by
  rw [slice, operations_filter ⟨Definition.firsts [] d.definitions⟩, Definition.operations_firsts]
  rfl

theorem fragment?_slice (d : Document) (name n : String) :
    (d.slice name).fragment? n = if d.Needs name n then d.fragment? n else none := by
  rw [slice, fragment?_filter ⟨Definition.firsts [] d.definitions⟩ _ (fun m => d.Needs name m)
    (fun _ => rfl), Definition.fragment?_firsts]
  simp

/-- What is needed by something needed is needed. -/
theorem needs_of_mem_slice {x : Definition} {n : String} (hx : x ∈ (d.slice name).definitions)
    (hn : d.Reaches x.body.items n) : d.Needs name n := by
  obtain ⟨hfirst, hneeded⟩ := List.mem_filter.mp hx
  cases x with
  | operation p =>
    have hp : p ∈ d.operations :=
      List.mem_filterMap.mpr ⟨.operation p, (Definition.firsts_sublist _ _).subset hfirst, rfl⟩
    exact ⟨p, hp, of_decide_eq_true hneeded, hn⟩
  | fragment f =>
    obtain ⟨p, hp, hname, m, hm, hmf⟩ := of_decide_eq_true hneeded
    have hf : d.fragment? f.name = some f := (Definition.fragment?_of_mem_firsts hfirst).2
    have hfn := (leads_of_fragment? hf).mpr (.inr hn)
    exact ⟨p, hp, hname, m, hm, hmf.trans hfn⟩

/-- What selections become is told by the fragments that they lead to. -/
theorem itemsExpand_of_agree {d' : Document} {items out : List Selection}
    (h : d.ItemsExpand items out)
    (hagree : ∀ n, d.Reaches items n → d'.fragment? n = d.fragment? n) :
    d'.ItemsExpand items out := by
  -- By induction on the derivation: what a part leads to, the whole leads to.
  induction h with
  | nil => exact .nil
  | field head sp _ _ ihBody ihRest =>
    simp only [reaches_field] at hagree
    exact .field head sp (ihBody fun n hn => hagree n (.inl hn))
      (ihRest fun n hn => hagree n (.inr hn))
  | inlineFragment p on? ds sp _ _ ihBody ihRest =>
    simp only [reaches_inlineFragment] at hagree
    exact .inlineFragment p on? ds sp (ihBody fun n hn => hagree n (.inl hn))
      (ihRest fun n hn => hagree n (.inr hn))
  | @undefined p m ds _ _ hnone _ ihRest =>
    simp only [reaches_spread] at hagree
    have hnone' := hagree m (.inl .refl)
    rw [hnone] at hnone'
    exact .undefined p ds hnone' (ihRest fun n hn => hagree n (.inr hn))
  | @spread p m ds f _ _ _ hf _ _ ihBody ihRest =>
    simp only [reaches_spread, leads_of_fragment? hf] at hagree
    have hf' := hagree m (.inl (.inl rfl))
    rw [hf] at hf'
    exact .spread p ds hf' (ihBody fun n hn => hagree n (.inl (.inr hn)))
      (ihRest fun n hn => hagree n (.inr hn))

theorem definitionExpands_slice {x y : Definition} (hx : x ∈ (d.slice name).definitions)
    (h : d.DefinitionExpands x y) : (d.slice name).DefinitionExpands x y := by
  obtain ⟨items, hitems, rfl⟩ := definitionExpands_iff.mp h
  refine definitionExpands_iff.mpr ⟨items, itemsExpand_of_agree hitems ?_, rfl⟩
  intro n hn
  rw [fragment?_slice, if_pos (needs_of_mem_slice hx hn)]

theorem reaches_of_slice {items : List Selection} {n : String}
    (h : (d.slice name).Reaches items n) : d.Reaches items n := by
  refine h.mono ?_
  intro m f hf
  rw [fragment?_slice] at hf
  split_ifs at hf
  exact hf

theorem operations_of_forall₂ {xs ys : List Definition}
    (h : List.Forall₂ d.DefinitionExpands xs ys) :
    List.Forall₂ (fun p q => d.DefinitionExpands (.operation p) (.operation q))
      (⟨xs⟩ : Document).operations (⟨ys⟩ : Document).operations := by
  refine List.rel_filterMap ?_ h
  intro x y hxy
  cases hxy with
  | operation p hitems => exact .some (.operation p hitems)
  | fragment _ _ => exact .none

theorem operations_eq_filter {ys : List Definition} (h : d.FullExpansion o)
    (hys : List.Forall₂ d.DefinitionExpands (d.slice name).definitions ys) :
    (⟨ys⟩ : Document).operations = o.operations.filter (·.name? = some name) := by
  have hslice := operations_of_forall₂ hys
  have hfilter : List.Forall₂ (fun p q => d.DefinitionExpands (.operation p) (.operation q))
      (d.operations.filter (·.name? = some name)) (o.operations.filter (·.name? = some name)) := by
    refine List.rel_filter (fun p q hpq => ?_) (operations_of_forall₂ h)
    cases hpq
    rfl
  rw [← operations_slice] at hfilter
  refine List.right_unique_forall₂' ?_ hslice hfilter
  intro p q r hq hr
  cases definitionExpands_unique hq hr
  rfl

/-- Where a document can be expanded so can a slice of it, under the same limit, and the operations
of the name become what they became in the whole. -/
theorem expand_slice (name : String) (h : (d.expand limit).result = .ok o) :
    ∃ o', ((d.slice name).expand limit).result = .ok o' ∧
      o'.operations = o.operations.filter (·.name? = some name) := by
  obtain ⟨hfull, hlimit, hself⟩ := (expand_eq_ok_iff d o limit).mp h
  obtain ⟨ys, hys, hsublist⟩ := exists_sublist_of_forall₂ hfull (d.slice_sublist name)
  refine ⟨⟨ys⟩, (expand_eq_ok_iff _ _ _).mpr ⟨?_, ?_, ?_⟩, operations_eq_filter hfull hys⟩
  · -- Each definition of the slice is expanded as in the whole, so the parts match one by one.
    have heach := (List.forall₂_and_left _ _).mpr ⟨fun x hx => hx, hys⟩
    exact heach.imp fun x y hxy => definitionExpands_slice hxy.1 hxy.2
  · exact Nat.le_trans (Definition.selectionCount_le_of_sublist hsublist) hlimit
  · intro x hx n hn hreaches
    exact hself x ((d.slice_sublist name).subset hx) n hn (reaches_of_slice hreaches)

end Document

end QueryTariff
