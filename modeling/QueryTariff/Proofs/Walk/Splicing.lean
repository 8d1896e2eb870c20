import QueryTariff.Proofs.Expansion.Correspondence
import QueryTariff.Proofs.Walk.Simulation

/-!
Inline fragments taken apart. Where the type within an inline fragment is the type around it, its
selections can stand in its place. Each field is then met with the same things around it, and no
selection set lies deeper, so walks that come to their ends end with the same total
(`walkAll_of_spliced`).
-/

namespace QueryTariff

/-- In the second list some inline fragments of the first have given way to their own selections.
The chain leads to the lists, and none of these inline fragments changes the type at its end. -/
inductive Selection.Spliced (S : Schema) :
    List Ancestor → List Selection → List Selection → Prop
  | nil {chain : List Ancestor} : Spliced S chain [] []
  | field {chain : List Ancestor} (h : FieldHead) (sp : Span)
    {body body' rest rest' : List Selection} : Spliced S (chain ++ [.field h.name]) body body' →
    Spliced S chain rest rest' →
    Spliced S chain (.field h sp body :: rest) (.field h sp body' :: rest')
  | spread {chain : List Ancestor} (p : Position) (n : String) (ds : List Directive)
    {rest rest' : List Selection} : Spliced S chain rest rest' →
    Spliced S chain (.spread p n ds :: rest) (.spread p n ds :: rest')
  | inlineFragment {chain : List Ancestor} (p : Position) (on? : Option String)
    (ds : List Directive) (sp : Span) {body body' rest rest' : List Selection} :
    Spliced S (chain ++ [.inlineFragment on?]) body body' → Spliced S chain rest rest' →
    Spliced S chain (.inlineFragment p on? ds sp body :: rest)
      (.inlineFragment p on? ds sp body' :: rest')
  | splice {chain : List Ancestor} (p : Position) {on? : Option String} (ds : List Directive)
    (sp : Span) {body body' rest rest' : List Selection} :
    enclosingType S (chain ++ [.inlineFragment on?]) = enclosingType S chain →
    Spliced S (chain ++ [.inlineFragment on?]) body body' → Spliced S chain rest rest' →
    Spliced S chain (.inlineFragment p on? ds sp body :: rest) (body' ++ rest')

structure Operation.Spliced (S : Schema) (o o' : Operation) : Prop where
  head? : o'.head? = o.head?
  items : Selection.Spliced S [.operation o.kind] o.body.items o'.body.items

theorem Selection.spliced_refl (S : Schema) (chain : List Ancestor) (items : List Selection) :
    Selection.Spliced S chain items items := by
  induction items using Selection.listInduction generalizing chain with
  | nil => exact .nil
  | field h sp items rest ihItems ihRest => exact .field h sp (ihItems _) (ihRest _)
  | spread p n ds rest ih => exact .spread p n ds (ih _)
  | inlineFragment p on? ds sp items rest ihItems ihRest =>
    exact .inlineFragment p on? ds sp (ihItems _) (ihRest _)

/-- Which inline fragments leave the type as it is: those without a condition, those where no type
is known anyway, and those whose condition names no type that narrows or the type around. -/
theorem enclosingType_inlineFragment_eq_iff (S : Schema) (chain : List Ancestor)
    (on? : Option String) :
    enclosingType S (chain ++ [.inlineFragment on?]) = enclosingType S chain ↔
      on? = none ∨ enclosingType S chain = none ∨ ∃ on, on? = some on ∧
        ((S.type? on).filter NamedType.isComposite = none ∨
          S.type? on = enclosingType S chain) := by
  have hsnoc : enclosingType S (chain ++ [.inlineFragment on?]) =
      EnclosingType.enter S (enclosingType S chain) (.inlineFragment on?) := by
    simp [enclosingType, List.foldl_append]
  rw [hsnoc]
  cases on? with
  | none => simp [EnclosingType.enter]
  | some on =>
    cases enclosingType S chain with
    | none => simp [EnclosingType.enter]
    | some t =>
      cases htype : S.type? on with
      | none => simp [EnclosingType.enter, htype]
      | some u => cases hcomposite : u.isComposite <;>
          simp [EnclosingType.enter, htype, hcomposite, Option.filter]

/-! ### The same things around -/

/-- Points that a walk does not tell apart: the same fields are around both, and the same type. -/
structure SameAround (S : Schema) (kind : OperationKind) (above above' : List Enclosure) :
    Prop where
  fields : fieldsAround above' = fieldsAround above
  type : enclosingType S (chainTo kind above') = enclosingType S (chainTo kind above)

theorem chainTo_snoc (kind : OperationKind) (above : List Enclosure) (x : Enclosure) :
    chainTo kind (above ++ [x]) = chainTo kind above ++ [x.ancestor] := by
  simp [chainTo]

section
variable {S : Schema} {kind : OperationKind} {above above' : List Enclosure}

theorem SameAround.snoc (h : SameAround S kind above above') (x : Enclosure) :
    SameAround S kind (above ++ [x]) (above' ++ [x]) where
  fields := by
    have hfields := h.fields
    rw [fieldsAround, fieldsAround] at hfields ⊢
    rw [List.filterMap_append, List.filterMap_append, hfields]
  type := by rw [enclosingType_snoc, enclosingType_snoc, h.type]

theorem sameAround_inlineFragment {on? : Option String}
    (h : enclosingType S (chainTo kind above ++ [.inlineFragment on?]) =
      enclosingType S (chainTo kind above)) :
    SameAround S kind (above ++ [.inlineFragment on?]) above where
  fields := (fieldsAround_inlineFragment above on?).symm
  type := by
    rw [chainTo_snoc]
    exact h.symm

end

section
variable {W : Walker} {kind : OperationKind} {above above' : List Enclosure}

theorem visit_of_sameAround (h : SameAround W.schema kind above above') (head : FieldHead) :
    Occurrence.visit W ⟨kind, above', head⟩ = Occurrence.visit W ⟨kind, above, head⟩ := by
  simp only [Occurrence.visit, Occurrence.multiplier, Occurrence.pageSize?, Occurrence.parent?,
    Occurrence.returnType?, Occurrence.isUndefined, Occurrence.definition?,
    Occurrence.enclosingType?, productAround, parentAround, h.fields, h.type]

theorem visits_of_sameAround (items : List Selection)
    (h : SameAround W.schema kind above above') :
    (occurrencesBelow kind above' items).map (Occurrence.visit W) =
      (occurrencesBelow kind above items).map (Occurrence.visit W) := by
  induction items using Selection.listInduction generalizing above above' with
  | nil => rw [occurrencesBelow, occurrencesBelow]
  | field head sp items rest ihItems ihRest =>
    rw [occurrencesBelow, occurrencesBelow, List.map_cons, List.map_cons, List.map_append,
      List.map_append, visit_of_sameAround h, ihItems (h.snoc _), ihRest h]
  | spread p n ds rest ih =>
    rw [occurrencesBelow, occurrencesBelow]
    exact ih h
  | inlineFragment p on? ds sp items rest ihItems ihRest =>
    rw [occurrencesBelow, occurrencesBelow, List.map_append, List.map_append,
      ihItems (h.snoc _), ihRest h]

end

/-! ### Walks -/

namespace Selection.Spliced

variable {S : Schema} {chain : List Ancestor} {items items' : List Selection}

theorem nesting_le (h : Spliced S chain items items') : nesting items' ≤ nesting items := by
  induction h with
  | nil => exact Nat.le_refl _
  | @field chain h sp body body' rest rest' hbody _ ihBody ihRest =>
    -- A field may lose all its selections, if they were inline fragments without any.
    have hempty : body.isEmpty = true → body'.isEmpty = true := by
      intro hnil
      cases hbody <;> first | rfl | cases hnil
    rw [nesting, nesting]
    cases hb : body.isEmpty with
    | true =>
      rw [hempty hb]
      simpa using ihRest
    | false =>
      rw [if_neg Bool.false_ne_true]
      split_ifs <;> omega
  | spread _ _ _ _ ih =>
    rw [nesting, nesting]
    exact ih
  | inlineFragment _ _ _ _ _ _ ihBody ihRest =>
    rw [nesting, nesting]
    omega
  | splice _ _ _ _ _ _ ihBody ihRest =>
    rw [nesting_append, nesting]
    omega

/-- A walk meets the same fields in the same order, and of each it learns the same. -/
theorem visits {W : Walker} {kind : OperationKind} {above : List Enclosure}
    (h : Spliced W.schema (chainTo kind above) items items') :
    (occurrencesBelow kind above items').map (Occurrence.visit W) =
      (occurrencesBelow kind above items).map (Occurrence.visit W) := by
  generalize hchain : chainTo kind above = chain at h
  induction h generalizing above with
  | nil => rw [occurrencesBelow]
  | field h sp _ _ ihBody ihRest =>
    have hbody := @ihBody (above ++ [.field h]) (by rw [chainTo_snoc, hchain]; rfl)
    rw [occurrencesBelow, occurrencesBelow, List.map_cons, List.map_cons, List.map_append,
      List.map_append, hbody, ihRest hchain]
  | spread p n ds _ ih =>
    rw [occurrencesBelow, occurrencesBelow]
    exact ih hchain
  | @inlineFragment chain p on? ds sp _ _ _ _ _ _ ihBody ihRest =>
    have hbody := @ihBody (above ++ [.inlineFragment on?]) (by rw [chainTo_snoc, hchain]; rfl)
    rw [occurrencesBelow, occurrencesBelow, List.map_append, List.map_append, hbody, ihRest hchain]
  | @splice chain p on? ds sp body body' _ _ htype _ _ ihBody ihRest =>
    have hbody := @ihBody (above ++ [.inlineFragment on?]) (by rw [chainTo_snoc, hchain]; rfl)
    rw [← hchain] at htype
    rw [occurrencesBelow_append, occurrencesBelow, List.map_append, List.map_append,
      visits_of_sameAround body' (sameAround_inlineFragment htype), hbody, ihRest hchain]

end Selection.Spliced

namespace Operation.Spliced

variable {S : Schema} {o o' : Operation}

theorem kind (h : o.Spliced S o') : o'.kind = o.kind :=
  Operation.kind_congr h.head?

theorem name? (h : o.Spliced S o') : o'.name? = o.name? :=
  Operation.name?_congr h.head?

theorem visits {W : Walker} (h : o.Spliced W.schema o') :
    o'.occurrences.map (Occurrence.visit W) = o.occurrences.map (Occurrence.visit W) := by
  rw [Operation.occurrences, Operation.occurrences, h.kind]
  exact h.items.visits

end Operation.Spliced

theorem visits_of_spliced {W : Walker} {os os' : List Operation}
    (h : List.Forall₂ (Operation.Spliced W.schema) os os') :
    (occurrencesOf os').map (Occurrence.visit W) = (occurrencesOf os).map (Occurrence.visit W) := by
  induction h with
  | nil => rfl
  | cons ho _ ih =>
    simp only [occurrencesOf, List.flatMap_cons, List.map_append] at ih ⊢
    rw [ho.visits, ih]

theorem forall_nesting_of_spliced {S : Schema} {os os' : List Operation}
    (h : List.Forall₂ (Operation.Spliced S) os os') (bound : Nat)
    (hos : ∀ o ∈ os, 1 + Selection.nesting o.body.items ≤ bound) :
    ∀ o ∈ os', 1 + Selection.nesting o.body.items ≤ bound := by
  intro o' ho'
  obtain ⟨o, ho, hspliced⟩ := exists_left_of_mem_forall₂ h ho'
  have hnesting := hspliced.items.nesting_le
  have hbound := hos o ho
  omega

theorem Scorer.tally_of_visits {σ : Type} (scorer : Scorer σ) {W : Walker} (total : σ)
    {fs fs' : List Occurrence}
    (h : fs'.map (Occurrence.visit W) = fs.map (Occurrence.visit W)) :
    scorer.tally W total fs' = scorer.tally W total fs := by
  have hfold (gs : List Occurrence) : scorer.tally W total gs =
      (gs.map (Occurrence.visit W)).foldl (fun t v => scorer.score v t) total := by
    rw [Scorer.tally, List.foldl_map]
  rw [hfold, hfold, h]

/-- Walks that come to their ends come to the same ends once inline fragments are taken apart, and
this whatever is scored. -/
theorem Walker.walkAll_of_spliced {σ : Type} (W : Walker) (scorer : Scorer σ) {total t : σ}
    {os os' : List Operation} (h : List.Forall₂ (Operation.Spliced W.schema) os os')
    (hwalk : (W.walkAll scorer total os).result = .ok t) :
    (W.walkAll scorer total os').result = .ok t := by
  rw [walkAll_result] at hwalk ⊢
  split_ifs at hwalk with hdepth
  rw [if_pos (forall_nesting_of_spliced h W.maxDepth hdepth),
    scorer.tally_of_visits total (visits_of_spliced h)]
  exact hwalk

end QueryTariff
