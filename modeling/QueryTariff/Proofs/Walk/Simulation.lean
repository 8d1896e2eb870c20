import QueryTariff.Proofs.Walk.Occurrence

/-!
The walk, told without its stacks. Where the stacks stand for a point (`Stands`), walking a list of
selections scores its occurrences from left to right and leaves the stacks as they were, unless a
selection set lies too deep (`walkItems_result`).
-/

namespace QueryTariff

/-- How many selection sets lie in each other within a list of selections. A field without
selections has no selection set; an inline fragment always has one. -/
def Selection.nesting : List Selection → Nat
  | [] => 0
  | .field _ _ items :: rest => max (if items.isEmpty then 0 else 1 + nesting items) (nesting rest)
  | .spread .. :: rest => nesting rest
  | .inlineFragment _ _ _ _ items :: rest => max (1 + nesting items) (nesting rest)

theorem Selection.nesting_append (xs ys : List Selection) :
    nesting (xs ++ ys) = max (nesting xs) (nesting ys) := by
  induction xs using listInduction with
  | nil => simp [nesting]
  | field h sp items rest _ ih => simp [nesting, ih, Nat.max_assoc]
  | spread p n ds rest ih => simp [nesting, ih]
  | inlineFragment p on? ds sp items rest _ ih => simp [nesting, ih, Nat.max_assoc]

/-- The stacks are those of the point below `above`. -/
structure WalkState.Stands (W : Walker) (kind : OperationKind) (above : List Enclosure)
    (st : WalkState) : Prop where
  stack_ne_nil : st.multipliers.stack ≠ []
  depth : st.multipliers.depth = above.length + 1
  top : st.multipliers.top = Saturating.clamp (productAround W.bindings above)
  parent : st.parents.head? = parentAround W.bindings above
  type : st.type? = enclosingType W.schema (chainTo kind above)

namespace WalkState

theorem leaveField_enterField (S : Schema) (st : WalkState) (head : FieldHead) (p? : Option Nat)
    (h : st.multipliers.stack ≠ []) : (st.enterField S head p?).leaveField = st := by
  rcases st with ⟨m, parents, types⟩
  simp only [enterField, leaveField, List.tail_cons]
  rw [Multipliers.pop_pushFor m h]

theorem leaveNode_enterNode (S : Schema) (st : WalkState) (a : Ancestor)
    (h : st.multipliers.stack ≠ []) : (st.enterNode S a).leaveNode = st := by
  rcases st with ⟨m, parents, types⟩
  simp only [enterNode, leaveNode, List.tail_cons]
  rw [Multipliers.pop_pushFor m h]

end WalkState

theorem Multipliers.stack_pushFor_ne_nil (m : Multipliers) (p? : Option Nat) :
    (m.pushFor p?).stack ≠ [] := by
  cases p? <;> simp [pushFor]

theorem Multipliers.top_pushFor (m : Multipliers) (p? : Option Nat) (n : Nat)
    (h : m.top = Saturating.clamp n) :
    (m.pushFor p?).top = Saturating.clamp (n * p?.getD 1) := by
  cases p? with
  | none => simp [h]
  | some p =>
    rw [top_pushFor_some, h, Saturating.mul_clamp_left]
    rfl

namespace WalkState.Stands

variable {W : Walker} {kind : OperationKind} {above : List Enclosure} {st : WalkState}

theorem start (W : Walker) (kind : OperationKind) :
    Stands W kind [] (WalkState.start.enterNode W.schema (.operation kind)) where
  stack_ne_nil := Multipliers.stack_pushFor_ne_nil _ _
  depth := rfl
  top := rfl
  parent := rfl
  type := rfl

theorem enterField (hst : Stands W kind above st) (h : FieldHead) :
    Stands W kind (above ++ [.field h])
      (st.enterField W.schema h (pageSize W.bindings h.arguments)) where
  stack_ne_nil := Multipliers.stack_pushFor_ne_nil _ _
  depth := by
    rw [WalkState.enterField, Multipliers.depth_pushFor _ hst.stack_ne_nil, hst.depth,
      List.length_append]
    rfl
  top := by
    rw [productAround_field]
    exact Multipliers.top_pushFor _ _ _ hst.top
  parent := by simp [WalkState.enterField, parentAround, fieldsAround_field]
  type := by
    rw [enclosingType_snoc, ← hst.type]
    rfl

theorem enterInlineFragment (hst : Stands W kind above st) (on? : Option String) :
    Stands W kind (above ++ [.inlineFragment on?])
      (st.enterNode W.schema (.inlineFragment on?)) where
  stack_ne_nil := Multipliers.stack_pushFor_ne_nil _ _
  depth := by
    rw [WalkState.enterNode, Multipliers.depth_pushFor _ hst.stack_ne_nil, hst.depth,
      List.length_append]
    rfl
  top := by
    rw [productAround_inlineFragment]
    exact hst.top
  parent := by
    rw [parentAround, fieldsAround_inlineFragment]
    exact hst.parent
  type := by
    rw [enclosingType_snoc, ← hst.type]
    rfl

theorem visit_eq (hst : Stands W kind above st) (h : FieldHead) :
    W.visit st h = Occurrence.visit W ⟨kind, above, h⟩ := by
  simp only [Walker.visit, Occurrence.visit, Occurrence.returnType?, Occurrence.isUndefined,
    Occurrence.definition?, Occurrence.enclosingType?, Occurrence.multiplier, Occurrence.parent?,
    Occurrence.pageSize?, hst.top, hst.parent, hst.type]

theorem checkDepth (hst : Stands W kind above st) :
    (W.checkDepth st).result =
      if above.length + 1 ≤ W.maxDepth then .ok () else .error ⟨W.maxDepth⟩ := by
  rw [Walker.checkDepth, hst.depth]
  by_cases h : above.length + 1 ≤ W.maxDepth
  · rw [if_neg (by omega), if_pos h]
    rfl
  · rw [if_pos (by omega), if_neg h]
    rfl

end WalkState.Stands

def Scorer.tally {σ : Type} (scorer : Scorer σ) (W : Walker) (total : σ) (fs : List Occurrence) : σ :=
  fs.foldl (fun t f => scorer.score (f.visit W) t) total

theorem Scorer.tally_append {σ : Type} (scorer : Scorer σ) (W : Walker) (total : σ)
    (fs gs : List Occurrence) :
    scorer.tally W total (fs ++ gs) = scorer.tally W (scorer.tally W total fs) gs :=
  List.foldl_append

namespace Walker

variable {σ β : Type}

/-- A selection set is entered only if it does not lie too deep, and then walked as `hrec` says. -/
theorem enter_result (W : Walker) (scorer : Scorer σ) (kind : OperationKind)
    (items : List Selection) (above : List Enclosure) (st : WalkState) (total : σ)
    (k : WalkState × σ → Logged TooDeep β) (hst : st.Stands W kind above)
    (hrec : above.length + 1 ≤ W.maxDepth → (W.walkItems scorer st total items).result =
      if above.length + 1 + Selection.nesting items ≤ W.maxDepth then
        .ok (st, scorer.tally W total (occurrencesBelow kind above items))
      else .error ⟨W.maxDepth⟩) :
    (W.checkDepth st >>= fun _ => W.walkItems scorer st total items >>= k).result =
      if above.length + 1 + Selection.nesting items ≤ W.maxDepth then
        (k (st, scorer.tally W total (occurrencesBelow kind above items))).result
      else .error ⟨W.maxDepth⟩ := by
  rw [Logged.result_bind, hst.checkDepth]
  by_cases hd : above.length + 1 ≤ W.maxDepth
  · rw [if_pos hd, Logged.ok_bind, Logged.result_bind, hrec hd]
    split_ifs <;> rfl
  · rw [if_neg hd, if_neg (by omega)]
    rfl

/-- Walking selections scores what stands in them and brings every stack back, unless a selection
set in them lies too deep. -/
theorem walkItems_result (W : Walker) (scorer : Scorer σ) (kind : OperationKind)
    (items : List Selection) (above : List Enclosure) (st : WalkState) (total : σ)
    (hst : st.Stands W kind above) (hd : above.length + 1 ≤ W.maxDepth) :
    (W.walkItems scorer st total items).result =
      if above.length + 1 + Selection.nesting items ≤ W.maxDepth then
        .ok (st, scorer.tally W total (occurrencesBelow kind above items))
      else .error ⟨W.maxDepth⟩ := by
  -- Left to right: what follows a selection is walked from the same stacks, with another total.
  induction items using Selection.listInduction generalizing above st total with
  | nil =>
    simp [walkItems, Selection.nesting, occurrencesBelow, Scorer.tally, hd]
  | field h sp items rest ihItems ihRest =>
    have hscore : scorer.tally W total [⟨kind, above, h⟩] = scorer.score (W.visit st h) total := by
      rw [hst.visit_eq]
      rfl
    cases items with
    | nil =>
      simp only [walkItems, Logged.result_tell_bind, List.isEmpty_nil, if_true, Selection.nesting,
        occurrencesBelow, List.nil_append]
      rw [ihRest above st _ hst hd, ← hscore, ← Scorer.tally_append, Nat.zero_max]
      rfl
    | cons x xs =>
      have hin := hst.enterField h
      have hlen : (above ++ [Enclosure.field h]).length = above.length + 1 := by simp
      have hstep := enter_result W scorer kind (x :: xs) _ _ (scorer.score (W.visit st h) total)
        (fun r => W.walkItems scorer r.1.leaveField r.2 rest) hin (ihItems _ _ _ hin)
      rw [hlen, WalkState.leaveField_enterField _ _ _ _ hst.stack_ne_nil, ihRest above st _ hst hd,
        ← hscore, ← Scorer.tally_append, ← Scorer.tally_append, ← ite_and] at hstep
      simp only [walkItems, Logged.result_tell_bind, List.isEmpty_cons, Bool.false_eq_true, if_false,
        Selection.nesting, occurrencesBelow]
      rw [← hscore]
      refine hstep.trans ?_
      exact if_congr (by omega) rfl rfl
  | spread p n ds rest ih =>
    simpa [walkItems, Selection.nesting, occurrencesBelow] using ih above st total hst hd
  | inlineFragment p on? ds sp items rest ihItems ihRest =>
    have hin := hst.enterInlineFragment on?
    have hlen : (above ++ [Enclosure.inlineFragment on?]).length = above.length + 1 := by simp
    have hstep := enter_result W scorer kind items _ _ total
      (fun r => W.walkItems scorer r.1.leaveNode r.2 rest) hin (ihItems _ _ _ hin)
    rw [hlen, WalkState.leaveNode_enterNode _ _ _ hst.stack_ne_nil, ihRest above st _ hst hd,
      ← Scorer.tally_append, ← ite_and] at hstep
    simp only [walkItems, Logged.result_tell_bind, Selection.nesting, occurrencesBelow]
    refine hstep.trans ?_
    exact if_congr (by omega) rfl rfl

theorem walk_result (W : Walker) (scorer : Scorer σ) (total : σ) (o : Operation) :
    (W.walk scorer total o).result =
      if 1 + Selection.nesting o.body.items ≤ W.maxDepth then
        .ok (scorer.tally W total o.occurrences)
      else .error ⟨W.maxDepth⟩ := by
  have hst := WalkState.Stands.start W o.kind
  have hstep := enter_result W scorer o.kind o.body.items [] _ total (fun r => pure r.2) hst
    (walkItems_result W scorer o.kind o.body.items [] _ total hst)
  rw [walk, Logged.result_tell_bind]
  refine hstep.trans ?_
  exact if_congr (by simp) rfl rfl

/-- Walking operations one after the other scores the occurrences of all of them, unless the
selection sets of one lie too deep. -/
theorem walkAll_result (W : Walker) (scorer : Scorer σ) (total : σ) (os : List Operation) :
    (W.walkAll scorer total os).result =
      if ∀ o ∈ os, 1 + Selection.nesting o.body.items ≤ W.maxDepth then
        .ok (scorer.tally W total (occurrencesOf os))
      else .error ⟨W.maxDepth⟩ := by
  induction os generalizing total with
  | nil => simp [walkAll, occurrencesOf, Scorer.tally]
  | cons o os ih =>
    simp only [walkAll, Logged.result_bind, walk_result, occurrencesOf, List.flatMap_cons,
      List.forall_mem_cons, Scorer.tally_append]
    by_cases ho : 1 + Selection.nesting o.body.items ≤ W.maxDepth
    · simp only [ho, if_true, Logged.ok_bind, true_and]
      exact ih _
    · simp only [ho, if_false, false_and]
      rfl

end Walker

end QueryTariff
