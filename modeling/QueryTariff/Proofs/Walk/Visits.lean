import QueryTariff.Proofs.Estimate.Monotone

/-!
A walk and its stacks. Whatever way a walk takes into a list of selections, it comes back with the
stacks it went with (`walkItems_restores`). So a walk that makes sure of its stacks before it pops
them, and once more at its end, answers the same as one that does not (`walkChecked_eq`), and what
it tells of each field can be read off the path to the field (`walk_scores_paths`).
-/

namespace QueryTariff

/-- Why a walk that makes sure of its stacks is not taken to its end. -/
inductive WalkFault where
  | tooDeep (e : TooDeep)
  /-- The multiplier at the bottom was about to be popped. -/
  | bottomPopped
  /-- A selection set was still open at the end. -/
  | leftOpen

theorem Multipliers.one_lt_length_pushFor (m : Multipliers) (h : m.stack ≠ [])
    (p? : Option Nat) : 1 < (m.pushFor p?).stack.length := by
  have hlength : 0 < m.stack.length := List.length_pos_of_ne_nil h
  cases p? with
  | none =>
    rw [pushFor, List.length_cons]
    omega
  | some p =>
    rw [pushFor, List.length_cons]
    omega

namespace WalkState

/-- Makes sure that a selection set is open. -/
def checkOpen (st : WalkState) : Except WalkFault Unit :=
  if 1 < st.multipliers.stack.length then .ok () else .error .bottomPopped

/-- Makes sure that no selection set is open. -/
def checkClosed (st : WalkState) : Except WalkFault Unit :=
  if st.multipliers.depth = 0 then .ok () else .error .leftOpen

theorem checkOpen_enterField (S : Schema) (st : WalkState) (h : FieldHead) (p? : Option Nat)
    (hst : st.multipliers.stack ≠ []) : (st.enterField S h p?).checkOpen = .ok () :=
  if_pos (Multipliers.one_lt_length_pushFor st.multipliers hst p?)

theorem checkOpen_enterNode (S : Schema) (st : WalkState) (a : Ancestor)
    (hst : st.multipliers.stack ≠ []) : (st.enterNode S a).checkOpen = .ok () :=
  if_pos (Multipliers.one_lt_length_pushFor st.multipliers hst none)

end WalkState

namespace Walker

variable {σ β : Type}

/-- Walks a list of selections like `walkItems`, and makes sure of the stacks before each pop. -/
def walkItemsChecked (W : Walker) (scorer : Scorer σ) (st : WalkState) (total : σ) :
    List Selection → Except WalkFault (WalkState × σ)
  | [] => .ok (st, total)
  | .field h _ items :: rest => do
    let v := W.visit st h
    let total := scorer.score v total
    if items.isEmpty then
      walkItemsChecked W scorer st total rest
    else
      let inner := st.enterField W.schema h v.pageSize?
      (W.checkDepth inner).result.mapError .tooDeep
      let (inner, total) ← walkItemsChecked W scorer inner total items
      inner.checkOpen
      walkItemsChecked W scorer inner.leaveField total rest
  | .inlineFragment _ on? _ _ items :: rest => do
    let inner := st.enterNode W.schema (.inlineFragment on?)
    (W.checkDepth inner).result.mapError .tooDeep
    let (inner, total) ← walkItemsChecked W scorer inner total items
    inner.checkOpen
    walkItemsChecked W scorer inner.leaveNode total rest
  | .spread .. :: rest => walkItemsChecked W scorer st total rest

/-- Walks an operation like `walk`, leaves it at the end, and makes sure of the stacks. -/
def walkChecked (W : Walker) (scorer : Scorer σ) (total : σ) (o : Operation) :
    Except WalkFault σ := do
  let st := WalkState.start.enterNode W.schema (.operation o.kind)
  (W.checkDepth st).result.mapError .tooDeep
  let (st, total) ← W.walkItemsChecked scorer st total o.body.items
  st.checkOpen
  st.leaveNode.checkClosed
  return total

/-- Every list of selections is left with the stacks it was entered with. -/
theorem walkItems_restores (W : Walker) (scorer : Scorer σ) (items : List Selection)
    {st st' : WalkState} {total total' : σ} (hst : st.multipliers.stack ≠ [])
    (h : (W.walkItems scorer st total items).result = .ok (st', total')) : st' = st := by
  -- The inner selections bring back what was pushed for them, and the pop after them takes it off.
  induction items using Selection.listInduction generalizing st st' total total' with
  | nil =>
    rw [walkItems] at h
    cases h
    rfl
  | field head sp items rest ihItems ihRest =>
    cases items with
    | nil =>
      simp only [walkItems, Logged.result_tell_bind, List.isEmpty_nil, if_true] at h
      exact ihRest hst h
    | cons x xs =>
      simp only [walkItems, Logged.result_tell_bind, List.isEmpty_cons, Bool.false_eq_true,
        if_false] at h
      obtain ⟨-, -, h⟩ := Logged.result_bind_eq_ok.mp h
      obtain ⟨⟨inner, total₁⟩, hitems, hrest⟩ := Logged.result_bind_eq_ok.mp h
      obtain rfl := ihItems (Multipliers.stack_pushFor_ne_nil _ _) hitems
      rw [WalkState.leaveField_enterField _ _ _ _ hst] at hrest
      exact ihRest hst hrest
  | spread p n ds rest ih =>
    simp only [walkItems, Logged.debug, Logged.result_tell_bind] at h
    exact ih hst h
  | inlineFragment p on? ds sp items rest ihItems ihRest =>
    simp only [walkItems, Logged.result_tell_bind] at h
    obtain ⟨-, -, h⟩ := Logged.result_bind_eq_ok.mp h
    obtain ⟨⟨inner, total₁⟩, hitems, hrest⟩ := Logged.result_bind_eq_ok.mp h
    obtain rfl := ihItems (Multipliers.stack_pushFor_ne_nil _ _) hitems
    rw [WalkState.leaveNode_enterNode _ _ _ hst] at hrest
    exact ihRest hst hrest

/-- A selection set that is entered is still open when its selections are walked, so the check
before it is left makes no difference. -/
theorem enterChecked_eq (W : Walker) (scorer : Scorer σ) (items : List Selection) (st : WalkState)
    (total : σ) (k : WalkState × σ → Logged TooDeep β)
    (kChecked : WalkState × σ → Except WalkFault β) (hst : st.multipliers.stack ≠ [])
    (hopen : st.checkOpen = .ok ())
    (hitems : W.walkItemsChecked scorer st total items =
      (W.walkItems scorer st total items).result.mapError .tooDeep)
    (hk : ∀ t, kChecked (st, t) = (k (st, t)).result.mapError .tooDeep) :
    ((W.checkDepth st).result.mapError .tooDeep >>= fun _ =>
      W.walkItemsChecked scorer st total items >>= fun r =>
      r.1.checkOpen >>= fun _ => kChecked r) =
    (W.checkDepth st >>= fun _ => W.walkItems scorer st total items >>= k).result.mapError
      .tooDeep := by
  rw [Logged.result_bind, hitems]
  cases (W.checkDepth st).result with
  | error e => rfl
  | ok _ =>
    simp only [Except.mapError, Logged.ok_bind, Logged.result_bind]
    cases hwalk : (W.walkItems scorer st total items).result with
    | error e => rfl
    | ok r =>
      -- The check and what follows see the stacks of the way in.
      obtain ⟨st', t⟩ := r
      obtain rfl := W.walkItems_restores scorer items hst hwalk
      simp only [Logged.ok_bind, hopen, hk]
      rfl

theorem walkItemsChecked_eq (W : Walker) (scorer : Scorer σ) (items : List Selection)
    (st : WalkState) (total : σ) (hst : st.multipliers.stack ≠ []) :
    W.walkItemsChecked scorer st total items =
      (W.walkItems scorer st total items).result.mapError .tooDeep := by
  induction items using Selection.listInduction generalizing st total with
  | nil =>
    rw [walkItemsChecked, walkItems]
    rfl
  | field head sp items rest ihItems ihRest =>
    cases items with
    | nil =>
      simp only [walkItemsChecked, walkItems, Logged.result_tell_bind, List.isEmpty_nil, if_true]
      exact ihRest st _ hst
    | cons x xs =>
      simp only [walkItemsChecked, walkItems, Logged.result_tell_bind, List.isEmpty_cons,
        Bool.false_eq_true, if_false]
      have hinner := Multipliers.stack_pushFor_ne_nil st.multipliers (W.visit st head).pageSize?
      refine enterChecked_eq W scorer (x :: xs) _ _
        (fun r => W.walkItems scorer r.1.leaveField r.2 rest)
        (fun r => W.walkItemsChecked scorer r.1.leaveField r.2 rest) hinner
        (WalkState.checkOpen_enterField _ _ _ _ hst) (ihItems _ _ hinner) ?_
      intro t
      rw [WalkState.leaveField_enterField _ _ _ _ hst]
      exact ihRest st t hst
  | spread p n ds rest ih =>
    simp only [walkItemsChecked, walkItems, Logged.debug, Logged.result_tell_bind]
    exact ih st total hst
  | inlineFragment p on? ds sp items rest ihItems ihRest =>
    simp only [walkItemsChecked, walkItems, Logged.result_tell_bind]
    have hinner := Multipliers.stack_pushFor_ne_nil st.multipliers none
    refine enterChecked_eq W scorer items _ _ (fun r => W.walkItems scorer r.1.leaveNode r.2 rest)
      (fun r => W.walkItemsChecked scorer r.1.leaveNode r.2 rest) hinner
      (WalkState.checkOpen_enterNode _ _ _ hst) (ihItems _ _ hinner) ?_
    intro t
    rw [WalkState.leaveNode_enterNode _ _ _ hst]
    exact ihRest st t hst

/-- No check of a walk fails, so a walk that makes them ends like one that does not. -/
theorem walkChecked_eq (W : Walker) (scorer : Scorer σ) (total : σ) (o : Operation) :
    W.walkChecked scorer total o = (W.walk scorer total o).result.mapError .tooDeep := by
  have hstart : WalkState.start.multipliers.stack ≠ [] := List.cons_ne_nil 1 []
  have hinner := Multipliers.stack_pushFor_ne_nil WalkState.start.multipliers none
  rw [walkChecked, walk, Logged.result_tell_bind]
  refine enterChecked_eq W scorer o.body.items _ total (fun r => pure r.2)
    (fun r => r.1.leaveNode.checkClosed >>= fun _ => pure r.2) hinner
    (WalkState.checkOpen_enterNode _ _ _ hstart) (walkItemsChecked_eq W scorer _ _ _ hinner) ?_
  intro t
  rw [WalkState.leaveNode_enterNode _ _ _ hstart]
  rfl

end Walker

/-! ### Fields and the paths to them -/

theorem map_head_occurrencesBelow (kind : OperationKind) (above : List Enclosure)
    (items : List Selection) :
    (occurrencesBelow kind above items).map Occurrence.head = fieldHeads items := by
  induction items using Selection.listInduction generalizing above with
  | nil => rw [occurrencesBelow, fieldHeads, List.map_nil]
  | field h sp items rest ihItems ihRest =>
    rw [occurrencesBelow, fieldHeads, List.map_cons, List.map_append, ihItems, ihRest]
  | spread p n ds rest ih =>
    rw [occurrencesBelow, fieldHeads, ih]
  | inlineFragment p on? ds sp items rest ihItems ihRest =>
    rw [occurrencesBelow, fieldHeads, List.map_append, ihItems, ihRest]

theorem kind_of_mem_occurrencesBelow {kind : OperationKind} {above : List Enclosure}
    {items : List Selection} {f : Occurrence} (hf : f ∈ occurrencesBelow kind above items) :
    f.kind = kind := by
  induction items using Selection.listInduction generalizing above with
  | nil =>
    rw [occurrencesBelow] at hf
    cases hf
  | field h sp items rest ihItems ihRest =>
    rw [occurrencesBelow, List.mem_cons, List.mem_append] at hf
    rcases hf with rfl | hf | hf
    · rfl
    · exact ihItems hf
    · exact ihRest hf
  | spread p n ds rest ih =>
    rw [occurrencesBelow] at hf
    exact ih hf
  | inlineFragment p on? ds sp items rest ihItems ihRest =>
    rw [occurrencesBelow, List.mem_append] at hf
    rcases hf with hf | hf
    · exact ihItems hf
    · exact ihRest hf

namespace Walker

variable {σ : Type}

/-- A walk scores each field of an operation once, in the order of the text, and tells of it what
stands on the path to it and nothing else. Its stacks are the same after each list of selections as
before, so it is never at fault. -/
theorem walk_scores_paths (W : Walker) (scorer : Scorer σ) (total : σ) (o : Operation) :
    (∀ t, (W.walk scorer total o).result = .ok t →
      t = (o.occurrences.map (Occurrence.visit W)).foldl (fun s v => scorer.score v s) total) ∧
    o.occurrences.map Occurrence.head = fieldHeads o.body.items ∧
    (∀ f ∈ o.occurrences,
      let type? := enclosingType W.schema (chainTo o.kind f.above)
      let definition? := type?.bind (·.field? f.head.name)
      f.visit W =
        { field := f.head
          multiplier := min (2 ^ 64 - 1)
            ((fieldsAround f.above).filterMap (pageSize W.bindings ·.arguments)).prod
          pageSize? := pageSize W.bindings f.head.arguments
          parent? := (fieldsAround f.above).getLast?.map fun h =>
            ⟨h, pageSize W.bindings h.arguments⟩
          returnType? := definition?.bind W.schema.returnType?
          undefinedOnParent := type?.isSome && definition?.isNone }) ∧
    (∀ (st st' : WalkState) (s s' : σ) (items : List Selection), st.multipliers.stack ≠ [] →
      (W.walkItems scorer st s items).result = .ok (st', s') → st' = st) ∧
    W.walkChecked scorer total o = (W.walk scorer total o).result.mapError .tooDeep := by
  refine ⟨?_, map_head_occurrencesBelow _ _ _, ?_, ?_, W.walkChecked_eq scorer total o⟩
  · intro t h
    rw [walk_result] at h
    split_ifs at h
    cases h
    rw [Scorer.tally, List.foldl_map]
  · intro f hf
    have hkind : f.kind = o.kind := kind_of_mem_occurrencesBelow hf
    have hclamp : Saturating.clamp (f.multiplier W.bindings) = min (2 ^ 64 - 1)
        ((fieldsAround f.above).filterMap (pageSize W.bindings ·.arguments)).prod :=
      Nat.min_comm _ _
    rw [Occurrence.visit, hclamp, ← hkind]
    rfl
  · intro st st' s s' items hst h
    exact W.walkItems_restores scorer items hst h

end Walker

namespace Sample

/-- What is told of a field where it is met, with types and fields by their names. -/
structure Meeting where
  field : String
  multiplier : Nat
  parent? : Option String
  returnType? : Option String
  undefinedOnParent : Bool
deriving DecidableEq, Repr

/-- Keeps what is told of each field. -/
def fieldsMet : Scorer (List Meeting) where
  score v met := met ++ [⟨v.field.name, v.multiplier, v.parent?.map ParentField.name,
    v.returnType?.map NamedType.name, v.undefinedOnParent⟩]
  notes _ := []

/-- Inline fragments, a spread, fields without selections and a field that its type does not define,
with more fields after them. -/
def branching : Operation := ⟨none, span, [
  page "users" ("first", .int 10)
    [into "Users" [select "edges" [select "node" [page "users" ("last", .var "n") []]]],
      spread "Lost", select "lost" [select "edges" []], select "edges" []],
  select "users" [select "edges" []]]⟩

/-- Of the type below an undefined field nothing is known, so there every field may be defined. -/
def metInBranching : List Meeting :=
  [⟨"users", 1, none, some "Users", false⟩, ⟨"edges", 10, some "users", some "UserEdge", false⟩,
    ⟨"node", 10, some "edges", some "User", false⟩,
    ⟨"users", 10, some "node", some "Users", false⟩,
    ⟨"lost", 10, some "users", none, true⟩, ⟨"edges", 10, some "lost", none, false⟩,
    ⟨"edges", 10, some "users", some "UserEdge", false⟩, ⟨"users", 1, none, some "Users", false⟩,
    ⟨"edges", 1, some "users", some "UserEdge", false⟩]

/-- The stacks of the walk where the selections of `branching` start. -/
def insideBranching : WalkState :=
  WalkState.start.enterNode Estimator.pagedSchema (.operation branching.kind)

/-- After inner selections the walk goes on with the multiplier, the parent and the type from
before. -/
theorem walk_branching :
    ((pageEstimator 7 1).walker.walk fieldsMet [] branching).result = .ok metInBranching ∧
    metInBranching = (branching.occurrences.map (Occurrence.visit (pageEstimator 7 1).walker)).foldl
      (fun met v => fieldsMet.score v met) [] ∧
    ((pageEstimator 7 1).walker.walkItems fieldsMet insideBranching []
      branching.body.items).result = .ok (insideBranching, metInBranching) ∧
    (pageEstimator 7 1).walker.walkChecked fieldsMet [] branching = .ok metInBranching := by
  have hwalk : ((pageEstimator 7 1).walker.walk fieldsMet [] branching).result =
      .ok metInBranching := by cbv
  obtain ⟨hscores, -, -, hrestores, hchecked⟩ :=
    (pageEstimator 7 1).walker.walk_scores_paths fieldsMet [] branching
  have hinside := hwalk
  rw [Walker.walk, Logged.result_tell_bind] at hinside
  obtain ⟨-, -, hinside⟩ := Logged.result_bind_eq_ok.mp hinside
  obtain ⟨⟨st, met⟩, hitems, hlast⟩ := Logged.result_bind_eq_ok.mp hinside
  cases hlast
  obtain rfl := hrestores insideBranching _ _ _ _ (List.cons_ne_nil 1 [1]) hitems
  rw [hwalk] at hchecked
  exact ⟨hwalk, hscores _ hwalk, hitems, hchecked⟩

end Sample

end QueryTariff
