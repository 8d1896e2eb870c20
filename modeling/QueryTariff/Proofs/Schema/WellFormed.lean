import QueryTariff.Proofs.Schema.Content

/-!
Which declarations make a schema. `WellFormed` says so without a draft and without an order in which
the declarations are looked at, and texts make a schema exactly if they can be read and what they
declare is well formed (`exists_schemaOf_iff`).
-/

namespace QueryTariff

theorem TypeBody.fields_eq_nil {b : TypeBody} (h : ¬ (b.kind = .object ∨ b.kind = .interface)) :
    b.fields = [] := by
  cases b <;> simp_all [TypeBody.kind, TypeBody.fields]

theorem NamedType.fields_eq_nil {t : NamedType} (h : ¬ (t.kind = .object ∨ t.kind = .interface)) :
    t.fields = [] := by
  cases t <;> simp_all [NamedType.kind, NamedType.fields]

namespace SchemaDraft

section
variable (ds : List (Option String × Declaration))

/-- A type of the name is declared, and it is of the kind. -/
def Declares (n : String) (kind : TypeKind) : Prop :=
  ∃ x ∈ typesOf ds, x.2.name = n ∧ x.2.body.kind = kind

/-- Built-in scalars need no declaration. -/
def Knows (n : String) (kind : TypeKind) : Prop :=
  Declares ds n kind ∨ BuiltInScalar.isName n = true ∧ kind = .scalar

/-- The names of the fields that a type is declared with and of those that its extensions add. -/
def mergedFieldNames (t : TypeDeclaration) : List String :=
  t.fieldNames ++ (extensionsNamed t.name (extensionsOf ds)).flatMap fun x => x.2.fieldNames

/-- What declarations must be like to make a schema. -/
structure WellFormed : Prop where
  types : (typeNamesOf ds).Nodup
  builtIns : ∀ x ∈ typesOf ds, ¬ BuiltInScalar.isName x.2.name = true
  fields : ∀ x ∈ typesOf ds, x.2.body.kind = .object ∨ x.2.body.kind = .interface →
    (mergedFieldNames ds x.2).Nodup
  bindings : ∀ kind, (bindingsOf ds kind).length ≤ 1
  extensions : ∀ x ∈ extensionsOf ds, Knows ds x.2.name x.2.body.kind
  roots : ∀ kind, ∀ b ∈ bindingsOf ds kind, Declares ds b.type .object
  query : bindingsOf ds .query ≠ [] ∨ Declares ds "Query" .object

end

/-! ### Names and kinds -/

section
variable {ds : List (Option String × Declaration)} {draft : SchemaDraft}

theorem knows_object_iff {n : String} : Knows ds n .object ↔ Declares ds n .object := by
  simp [Knows]

/-- What kind of type a name stands for in a draft. -/
theorem Describes.kind_iff (hd : Describes ds draft) (hc : Consistent ds) {n : String}
    {kind : TypeKind} :
    (draft.types.get? n).map NamedType.kind = some kind ↔ Knows ds n kind := by
  rw [Option.map_eq_some_iff]
  constructor
  · rintro ⟨t, ht, rfl⟩
    rcases (hd.types n t).mp ht with ⟨s, hs, rfl⟩ | ⟨x, hx, hn, htype⟩
    · exact .inr ⟨isName_iff.mpr ⟨s, hs⟩, rfl⟩
    · exact .inl ⟨x, hx, hn, (statedBy_of_typeOf htype).kind.symm⟩
  · rintro (⟨x, hx, rfl, hkind⟩ | ⟨hn, rfl⟩)
    · obtain ⟨type, htype, hget⟩ := hd.exists_type hc hx
      exact ⟨type, hget, (statedBy_of_typeOf htype).kind.trans hkind⟩
    · obtain ⟨s, hs⟩ := isName_iff.mp hn
      exact ⟨.builtIn s, (hd.types n _).mpr (.inl ⟨s, hs, rfl⟩), rfl⟩

theorem Describes.mem_bindingsOf_iff (hd : Describes ds draft) (kind : OperationKind)
    (b : RootBinding) : b ∈ bindingsOf ds kind ↔ b ∈ draft.roots.get kind := by
  rw [← hd.roots kind, Option.mem_toList, Option.mem_def]

/-! ### Extensions that fit -/

theorem names_addedFields (xs : List (Option String × TypeDeclaration)) :
    (addedFields xs).map Prod.fst = xs.flatMap fun x => x.2.fieldNames := by
  rw [addedFields, List.map_flatMap]
  simp only [names_fieldsOf]
  rfl

theorem StatedBy.mergedFieldNames {x : Option String × TypeDeclaration} {t : NamedType}
    (h : StatedBy x t) :
    (t.fields ++ addedFields (extensionsNamed x.2.name (extensionsOf ds))).map Prod.fst =
      mergedFieldNames ds x.2 := by
  rw [List.map_append, h.fields, names_fieldsOf, names_addedFields]
  rfl

theorem addedFields_eq_nil {xs : List (Option String × TypeDeclaration)}
    (h : ∀ x ∈ xs, x.2.body.fields = []) : addedFields xs = [] := by
  rw [addedFields, List.flatMap_eq_nil_iff]
  intro x hx
  rw [h x hx]
  rfl

/-- Extensions can be applied exactly if each is of the kind of the type it names and no field of a
type with fields is declared twice. -/
theorem Describes.extensible_iff (hd : Describes ds draft) (hc : Consistent ds) :
    Extensible draft.types draft.extensions ↔
      (∀ x ∈ extensionsOf ds, Knows ds x.2.name x.2.body.kind) ∧
        ∀ x ∈ typesOf ds, x.2.body.kind = .object ∨ x.2.body.kind = .interface →
          (mergedFieldNames ds x.2).Nodup := by
  rw [hd.extensions]
  constructor
  · rintro ⟨hkinds, hfields⟩
    refine ⟨fun x hx => ?_, fun x hx _ => ?_⟩
    · rw [← hd.kind_iff hc, Option.map_eq_some_iff]
      exact hkinds x hx
    · obtain ⟨type, htype, hget⟩ := hd.exists_type hc hx
      rw [← (statedBy_of_typeOf htype).mergedFieldNames]
      exact hfields _ type hget
  · rintro ⟨hkinds, hfields⟩
    have hkinds' : ∀ x ∈ extensionsOf ds,
        ∃ t, draft.types.get? x.2.name = some t ∧ t.kind = x.2.body.kind := by
      intro x hx
      rw [← Option.map_eq_some_iff, hd.kind_iff hc]
      exact hkinds x hx
    refine ⟨hkinds', fun n t ht => ?_⟩
    by_cases hkind : t.kind = .object ∨ t.kind = .interface
    · rcases (hd.types n t).mp ht with ⟨s, -, rfl⟩ | ⟨x, hx, rfl, htype⟩
      · simp [NamedType.kind] at hkind
      · have hstated := statedBy_of_typeOf htype
        rw [hstated.kind] at hkind
        rw [hstated.mergedFieldNames]
        exact hfields x hx hkind
    · -- Extensions of a type without fields are of its kind, so they have none either.
      have hadded : addedFields (extensionsNamed n (extensionsOf ds)) = [] := by
        apply addedFields_eq_nil
        intro x hx
        obtain ⟨hx, hn⟩ := List.mem_filter.mp hx
        obtain ⟨t', ht', hkind'⟩ := hkinds' x hx
        rw [of_decide_eq_true hn, ht] at ht'
        cases ht'
        apply TypeBody.fields_eq_nil
        rw [← hkind']
        exact hkind
      rw [hadded, NamedType.fields_eq_nil hkind]
      exact List.nodup_nil

end

/-! ### Root types that can be settled -/

section
variable {types : NameMap NamedType} {roots : ByKind (Option RootBinding)} {kind : OperationKind}

theorem exists_resolveRoot_iff :
    (∃ name?, resolveRoot types roots kind = .ok name?) ↔
      ∀ b ∈ roots.get kind, (types.get? b.type).map NamedType.kind = some .object := by
  rw [resolveRoot_eq]
  cases roots.get kind with
  | none => simp
  | some b =>
    simp only [Option.mem_def, Option.some.injEq, forall_eq']
    cases (types.get? b.type).map NamedType.kind with
    | none => simp
    | some k => cases k <;> simp

theorem resolveRoot_eq_none_iff :
    resolveRoot types roots kind = .ok none ↔
      roots.get kind = none ∧ (types.get? kind.defaultRoot).map NamedType.kind ≠ some .object := by
  rw [resolveRoot_eq]
  cases roots.get kind with
  | none => simp
  | some b =>
    dsimp only
    cases (types.get? b.type).map NamedType.kind with
    | none => simp
    | some k => cases k <;> simp

/-- A draft makes a schema exactly if its extensions can be applied, its root types are objects, and
there is one for queries. -/
theorem exists_build_iff {draft : SchemaDraft} :
    (∃ S, draft.build = .ok S) ↔
      Extensible draft.types draft.extensions ∧
      (∀ kind, ∀ b ∈ draft.roots.get kind,
        (draft.types.get? b.type).map NamedType.kind = some .object) ∧
      (draft.roots.get .query ≠ none ∨
        (draft.types.get? "Query").map NamedType.kind = some .object) := by
  have hkinds {types : NameMap NamedType}
      (h : applyExtensions draft.types draft.extensions = .ok types) (n : String) :
      (types.get? n).map NamedType.kind = (draft.types.get? n).map NamedType.kind :=
    map_kind_of_rel (fun _ _ => ExtendedBy.kind) (extendedBy_of_applyExtensions h n)
  constructor
  · rintro ⟨S, hS⟩
    obtain ⟨htypes, hroots⟩ := build_eq_ok_iff.mp hS
    refine ⟨exists_applyExtensions_iff.mp ⟨_, htypes⟩, fun kind => ?_, ?_⟩
    · simp only [← hkinds htypes]
      exact exists_resolveRoot_iff.mp ⟨_, hroots kind⟩
    · have hquery : resolveRoot S.types draft.roots .query ≠ .ok none := by
        rw [hroots .query]
        simp [Schema.rootName?]
      rw [ne_eq, resolveRoot_eq_none_iff, hkinds htypes, not_and_or, not_not] at hquery
      exact hquery
  · rintro ⟨hextensible, hroots, hquery⟩
    obtain ⟨types, htypes⟩ := exists_applyExtensions_iff.mpr hextensible
    have hsettled (kind : OperationKind) :
        ∃ name?, resolveRoot types draft.roots kind = .ok name? := by
      rw [exists_resolveRoot_iff]
      simp only [hkinds htypes]
      exact hroots kind
    obtain ⟨mutation?, hmutation⟩ := hsettled .mutation
    obtain ⟨subscription?, hsubscription⟩ := hsettled .subscription
    obtain ⟨query?, hquery?⟩ := hsettled .query
    cases query? with
    | none =>
      obtain ⟨hnone, hkind⟩ := resolveRoot_eq_none_iff.mp hquery?
      rw [hkinds htypes] at hkind
      exact absurd hquery (not_or.mpr ⟨not_not.mpr hnone, hkind⟩)
    | some query =>
      refine ⟨⟨types, query, mutation?, subscription?⟩, build_eq_ok_iff.mpr ⟨htypes, ?_⟩⟩
      intro kind
      cases kind with
      | query => exact hquery?
      | mutation => exact hmutation
      | subscription => exact hsubscription

end

/-! ### Declarations that make a schema -/

section
variable {ds : List (Option String × Declaration)}

theorem Describes.exists_build_iff {draft : SchemaDraft} (hd : Describes ds draft)
    (hc : Consistent ds) : (∃ S, draft.build = .ok S) ↔ WellFormed ds := by
  rw [SchemaDraft.exists_build_iff, hd.extensible_iff hc]
  simp only [hd.kind_iff hc, knows_object_iff, ← hd.mem_bindingsOf_iff]
  rw [ne_eq, hd.roots_eq_none_iff, ← ne_eq]
  constructor
  · rintro ⟨⟨hextensions, hfields⟩, hroots, hquery⟩
    exact ⟨hc.types, hc.builtIns, hfields, hc.roots, hextensions, hroots, hquery⟩
  · intro h
    exact ⟨⟨h.extensions, h.fields⟩, h.roots, h.query⟩

theorem WellFormed.consistent (h : WellFormed ds) : Consistent ds := by
  refine ⟨h.types, h.builtIns, fun x hx => ?_, h.bindings⟩
  by_cases hkind : x.2.body.kind = .object ∨ x.2.body.kind = .interface
  · exact (List.nodup_append.mp (h.fields x hx hkind)).1
  · rw [TypeDeclaration.fieldNames, TypeBody.fields_eq_nil hkind]
    exact List.nodup_nil

/-- Texts make a schema exactly if all of them can be read and what they declare is well formed. -/
theorem exists_schemaOf_iff (read : String → Except Position (List Declaration))
    (sources : List (Option String × String)) :
    (∃ S, schemaOf read sources = .ok S) ↔
      (∀ source ∈ sources, ∃ ds, read source.2 = .ok ds) ∧
        WellFormed (declarationsOf read sources) := by
  simp only [schemaOf_eq_ok_iff]
  constructor
  · rintro ⟨S, hread, draft, hdraft, hbuild⟩
    obtain ⟨hc, hd⟩ := describes_of_declareFrom hdraft
    exact ⟨hread, (hd.exists_build_iff hc).mp ⟨S, hbuild⟩⟩
  · rintro ⟨hread, hwell⟩
    obtain ⟨draft, hdraft⟩ := exists_declareFrom_iff.mpr hwell.consistent
    obtain ⟨hc, hd⟩ := describes_of_declareFrom hdraft
    obtain ⟨S, hbuild⟩ := (hd.exists_build_iff hc).mpr hwell
    exact ⟨S, hread, draft, hdraft, hbuild⟩

end

end SchemaDraft

end QueryTariff
