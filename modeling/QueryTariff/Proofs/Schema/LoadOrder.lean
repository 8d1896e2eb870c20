import QueryTariff.Proofs.Schema.Extended
import QueryTariff.Proofs.Estimate.Monotone
import QueryTariff.Proofs.Estimate.SchemaOrder

/-!
Texts in another order. A schema can be built from texts whatever their order, or in no order at
all; and two orders give schemas that say the same (`exists_schemaOf_of_perm`), so that estimates do
not depend on the order either.
-/

namespace QueryTariff

namespace SchemaDraft

/-! ### Reading texts -/

/-- Takes in texts one after the other, each with the file it stands in. -/
def loadTexts (read : String → Except Position (List Declaration)) :
    SchemaDraft → List (Option String × String) → Logged SchemaError SchemaDraft
  | draft, [] => pure draft
  | draft, (file?, text) :: rest => do
    let draft ← draft.loadWith read file? text
    loadTexts read draft rest

/-- The schema of the texts in their order. -/
def schemaOf (read : String → Except Position (List Declaration))
    (sources : List (Option String × String)) : Except SchemaError Schema := do
  let draft ← (empty.loadTexts read sources).result
  draft.build

section
variable {read : String → Except Position (List Declaration)}
  {sources sources' : List (Option String × String)} {draft draft' : SchemaDraft}

/-- What a text declares; one that cannot be read declares nothing. -/
def declarationsIn (read : String → Except Position (List Declaration))
    (source : Option String × String) : List (Option String × Declaration) :=
  match read source.2 with
  | .error _ => []
  | .ok ds => ds.map fun d => (source.1, d)

theorem result_declareAll (file? : Option String) (ds : List Declaration) :
    (draft.declareAll file? ds).result = draft.declareFrom (ds.map fun d => (file?, d)) := by
  induction ds generalizing draft with
  | nil => rfl
  | cons d ds ih =>
    rw [declareAll, Logged.result_tell_bind, Logged.result_bind, Logged.result_silent]
    simp only [ih]
    rfl

theorem loadWith_eq_ok_iff {source : Option String × String} :
    (draft.loadWith read source.1 source.2).result = .ok draft' ↔
      (∃ ds, read source.2 = .ok ds) ∧
        draft.declareFrom (declarationsIn read source) = .ok draft' := by
  rw [loadWith, declarationsIn]
  cases read source.2 with
  | error p => exact ⟨nofun, nofun⟩
  | ok ds =>
    rw [result_declareAll]
    exact ⟨fun h => ⟨⟨ds, rfl⟩, h⟩, And.right⟩

/-- Texts are taken in if all can be read and their declarations can be taken in one after the
other. -/
theorem loadTexts_eq_ok_iff :
    (draft.loadTexts read sources).result = .ok draft' ↔
      (∀ source ∈ sources, ∃ ds, read source.2 = .ok ds) ∧
        draft.declareFrom (sources.flatMap (declarationsIn read)) = .ok draft' := by
  induction sources generalizing draft with
  | nil => exact ⟨fun h => ⟨nofun, h⟩, And.right⟩
  | cons source rest ih =>
    rw [loadTexts, Logged.result_bind_eq_ok, List.flatMap_cons, declareFrom_append, bind_eq_ok,
      List.forall_mem_cons]
    simp only [loadWith_eq_ok_iff, ih]
    constructor
    · rintro ⟨m, ⟨hread, hm⟩, hreads, hrest⟩
      exact ⟨⟨hread, hreads⟩, m, hm, hrest⟩
    · rintro ⟨⟨hread, hreads⟩, m, hm, hrest⟩
      exact ⟨m, ⟨hread, hm⟩, hreads, hrest⟩

end

/-! ### Drafts of the same declarations -/

section
variable {ds ds' : List (Option String × Declaration)} {draft draft' : SchemaDraft}

theorem Consistent.perm (h : Consistent ds) (hds : ds.Perm ds') : Consistent ds' := by
  have htypes : (typesOf ds).Perm (typesOf ds') := hds.filterMap typeIn?
  refine ⟨?_, ?_, ?_, fun kind => ?_⟩
  · have hnames : (typeNamesOf ds).Perm (typeNamesOf ds') := htypes.map _
    exact hnames.nodup_iff.mp h.types
  · intro x hx
    exact h.builtIns x (htypes.mem_iff.mpr hx)
  · intro x hx
    exact h.fields x (htypes.mem_iff.mpr hx)
  · have hbindings : (bindingsOf ds kind).Perm (bindingsOf ds' kind) :=
      hds.filterMap (bindingIn? kind)
    rw [← hbindings.length_eq]
    exact h.roots kind

/-- The drafts hold the same types and root types, and the same extensions in some order. -/
structure Reordered (draft draft' : SchemaDraft) : Prop where
  types : ∀ n, draft.types.get? n = draft'.types.get? n
  roots : ∀ kind, draft.roots.get kind = draft'.roots.get kind
  extensions : draft.extensions.Perm draft'.extensions

theorem reordered_of_perm (h : Describes ds draft) (h' : Describes ds' draft')
    (hds : ds.Perm ds') : Reordered draft draft' := by
  refine ⟨fun n => ?_, fun kind => ?_, ?_⟩
  · have htypes : (typesOf ds).Perm (typesOf ds') := hds.filterMap typeIn?
    apply Option.ext
    intro t
    rw [h.types, h'.types]
    simp only [htypes.mem_iff]
  · -- One kind has one binding at most, so there is no other order of them.
    have hbindings : (bindingsOf ds kind).Perm (bindingsOf ds' kind) :=
      hds.filterMap (bindingIn? kind)
    rw [← h.roots kind, ← h'.roots kind] at hbindings
    cases hb : draft.roots.get kind <;> cases hb' : draft'.roots.get kind <;>
      simp_all
  · rw [h.extensions, h'.extensions]
    exact hds.filterMap extensionIn?

theorem Reordered.symm (h : Reordered draft draft') : Reordered draft' draft :=
  ⟨fun n => (h.types n).symm, fun kind => (h.roots kind).symm, h.extensions.symm⟩

end

/-! ### Schemas of the same declarations -/

section
variable {xs xs' : List (Option String × TypeDeclaration)} {draft draft' : SchemaDraft}

theorem extensionsNamed_perm (n : String) (hxs : xs.Perm xs') :
    (extensionsNamed n xs).Perm (extensionsNamed n xs') :=
  hxs.filter _

theorem addedFields_perm (hxs : xs.Perm xs') : (addedFields xs).Perm (addedFields xs') :=
  hxs.flatMap_right _

theorem Extensible.reordered (h : Extensible draft.types draft.extensions)
    (hdraft : Reordered draft draft') : Extensible draft'.types draft'.extensions := by
  refine ⟨fun x hx => ?_, fun n t ht => ?_⟩
  · rw [← hdraft.types]
    exact h.kinds x (hdraft.extensions.mem_iff.mpr hx)
  · rw [← hdraft.types] at ht
    have hadded := addedFields_perm (extensionsNamed_perm n hdraft.extensions)
    exact ((hadded.append_left t.fields).map Prod.fst).nodup_iff.mp (h.fields n t ht)

/-- Extensions may come in another order: only the order of the fields is another one then. -/
theorem ExtendedBy.within {t u u' : NamedType} (h : ExtendedBy xs t u) (h' : ExtendedBy xs' t u')
    (hxs : xs.Perm xs') : u.Within u' where
  name := h'.name.trans h.name.symm
  kind := h'.kind.trans h.kind.symm
  field? := by
    intro n f hf
    have hfields : u.fields.Perm u'.fields := by
      rw [h.fields, h'.fields]
      exact (addedFields_perm hxs).append_left t.fields
    rw [NamedType.field?_eq_some_iff] at hf
    exact ⟨f, NamedType.field?_eq_some_iff.mpr (hfields.mem_iff.mp hf), rfl⟩

theorem RelatedBy.within {t? u? u?' : Option NamedType} (h : RelatedBy xs t? u?)
    (h' : RelatedBy xs' t? u?') (hxs : xs.Perm xs') : Option.Rel NamedType.Within u? u?' := by
  cases h with
  | none =>
    cases h'
    exact .none
  | some h =>
    cases h' with
    | some h' => exact .some (h.within h' hxs)

theorem within_of_applyExtensions {types types' : NameMap NamedType}
    (hdraft : Reordered draft draft')
    (h : applyExtensions draft.types draft.extensions = .ok types)
    (h' : applyExtensions draft'.types draft'.extensions = .ok types') (n : String) :
    Option.Rel NamedType.Within (types.get? n) (types'.get? n) := by
  have hrel' := extendedBy_of_applyExtensions h' n
  rw [← hdraft.types n] at hrel'
  exact (extendedBy_of_applyExtensions h n).within hrel'
    (extensionsNamed_perm n hdraft.extensions)

/-- Of types, root types depend on their kinds only. -/
theorem resolveRoot_eq (types : NameMap NamedType) (roots : ByKind (Option RootBinding))
    (kind : OperationKind) :
    resolveRoot types roots kind =
      match roots.get kind with
      | none =>
        .ok (if (types.get? kind.defaultRoot).map NamedType.kind = some .object then
          some kind.defaultRoot else none)
      | some binding =>
        match (types.get? binding.type).map NamedType.kind with
        | some .object => .ok (some binding.type)
        | some existing => .error (.rootNotObject kind existing binding.type)
        | none => .error (.undefinedRoot kind binding) := by
  rw [resolveRoot]
  cases roots.get kind with
  | none =>
    cases types.get? kind.defaultRoot with
    | none => rfl
    | some t => cases t <;> rfl
  | some binding =>
    dsimp only
    cases types.get? binding.type with
    | none => rfl
    | some t => cases t <;> rfl

theorem map_kind_of_rel {R : NamedType → NamedType → Prop} (hR : ∀ t t', R t t' → t'.kind = t.kind)
    {t? t?' : Option NamedType} (h : Option.Rel R t? t?') :
    t?'.map NamedType.kind = t?.map NamedType.kind := by
  cases h with
  | none => rfl
  | some h => exact congrArg some (hR _ _ h)

/-- A schema is built if the extensions fit and the root types are what they should be. -/
theorem build_eq_ok_iff {S : Schema} :
    draft.build = .ok S ↔
      applyExtensions draft.types draft.extensions = .ok S.types ∧
        ∀ kind, resolveRoot S.types draft.roots kind = .ok (S.rootName? kind) := by
  rw [build, bind_eq_ok]
  constructor
  · rintro ⟨types, htypes, h⟩
    obtain ⟨query?, hquery, h⟩ := bind_eq_ok.mp h
    cases query? with
    | none => cases h
    | some query =>
      obtain ⟨mutation?, hmutation, h⟩ := bind_eq_ok.mp h
      obtain ⟨subscription?, hsubscription, h⟩ := bind_eq_ok.mp h
      cases h
      refine ⟨htypes, fun kind => ?_⟩
      cases kind with
      | query => exact hquery
      | mutation => exact hmutation
      | subscription => exact hsubscription
  · rintro ⟨htypes, hroots⟩
    refine ⟨S.types, htypes, ?_⟩
    have hquery : resolveRoot S.types draft.roots .query = .ok (some S.query) := hroots .query
    rw [hquery, hroots .mutation, hroots .subscription]
    rfl

/-- Whatever the order of the extensions, there is a schema that says no less. -/
theorem exists_build_of_reordered {S : Schema} (hdraft : Reordered draft draft')
    (h : draft.build = .ok S) : ∃ S', draft'.build = .ok S' ∧ S.Within S' := by
  obtain ⟨htypes, hroots⟩ := build_eq_ok_iff.mp h
  have hextensible : Extensible draft'.types draft'.extensions :=
    (exists_applyExtensions_iff.mp ⟨_, htypes⟩).reordered hdraft
  obtain ⟨types', htypes'⟩ := exists_applyExtensions_iff.mpr hextensible
  have hwithin := within_of_applyExtensions hdraft htypes htypes'
  refine ⟨{ S with types := types' }, build_eq_ok_iff.mpr ⟨htypes', fun kind => ?_⟩, ?_⟩
  · have hroot : resolveRoot types' draft'.roots kind = resolveRoot S.types draft.roots kind := by
      have hkinds (n : String) := map_kind_of_rel (fun _ _ => NamedType.Within.kind) (hwithin n)
      simp only [resolveRoot_eq, hdraft.roots, hkinds]
    rw [hroot, hroots kind]
    cases kind <;> rfl
  · refine ⟨fun kind => ?_, hwithin⟩
    cases kind <;> rfl

end

/-! ### Schemas of the same texts -/

/-- What texts declare, in their order. -/
def declarationsOf (read : String → Except Position (List Declaration))
    (sources : List (Option String × String)) : List (Option String × Declaration) :=
  sources.flatMap (declarationsIn read)

section
variable {read : String → Except Position (List Declaration)}
  {sources sources' : List (Option String × String)}

theorem schemaOf_eq_ok_iff {S : Schema} :
    schemaOf read sources = .ok S ↔
      (∀ source ∈ sources, ∃ ds, read source.2 = .ok ds) ∧
        ∃ draft, empty.declareFrom (declarationsOf read sources) = .ok draft ∧
          draft.build = .ok S := by
  rw [schemaOf, bind_eq_ok]
  simp only [loadTexts_eq_ok_iff, declarationsOf]
  exact ⟨fun ⟨draft, ⟨hread, hdraft⟩, hbuild⟩ => ⟨hread, draft, hdraft, hbuild⟩,
    fun ⟨hread, draft, hdraft, hbuild⟩ => ⟨draft, ⟨hread, hdraft⟩, hbuild⟩⟩

/-- Texts that make a schema make one in every order, and it says no less than the first. -/
theorem exists_schemaOf_of_perm {S : Schema} (hsources : sources.Perm sources')
    (h : schemaOf read sources = .ok S) : ∃ S', schemaOf read sources' = .ok S' ∧ S.Within S' := by
  obtain ⟨hread, draft, hdraft, hbuild⟩ := schemaOf_eq_ok_iff.mp h
  obtain ⟨hconsistent, hdescribes⟩ := describes_of_declareFrom hdraft
  have hds : (declarationsOf read sources).Perm (declarationsOf read sources') :=
    hsources.flatMap_right _
  obtain ⟨draft', hdraft'⟩ := exists_declareFrom_iff.mpr (hconsistent.perm hds)
  have hread' : ∀ source ∈ sources', ∃ ds, read source.2 = .ok ds := by
    intro source hsource
    exact hread source (hsources.mem_iff.mpr hsource)
  have hreordered : Reordered draft draft' :=
    reordered_of_perm hdescribes (describes_of_declareFrom hdraft').2 hds
  obtain ⟨S', hbuild', hwithin⟩ := exists_build_of_reordered hreordered hbuild
  exact ⟨S', schemaOf_eq_ok_iff.mpr ⟨hread', draft', hdraft', hbuild'⟩, hwithin⟩

end

end SchemaDraft

/-- Texts make no schema in either order, or one in each, and then every estimate is the same under
the two. -/
theorem Estimator.estimate_of_reordered_sources
    (read : String → Except Position (List Declaration))
    (sources sources' : List (Option String × String)) (hsources : sources.Perm sources') :
    ((∃ e, SchemaDraft.schemaOf read sources = .error e) ∧
      ∃ e, SchemaDraft.schemaOf read sources' = .error e) ∨
    ∃ S S', SchemaDraft.schemaOf read sources = .ok S ∧
      SchemaDraft.schemaOf read sources' = .ok S' ∧
      ∀ (E : Estimator) (d : Document),
        ({ E with schema := S }.estimate d).result =
          ({ E with schema := S' }.estimate d).result := by
  cases h : SchemaDraft.schemaOf read sources with
  | ok S =>
    obtain ⟨S', h', hwithin⟩ := SchemaDraft.exists_schemaOf_of_perm hsources h
    obtain ⟨S'', h'', hwithin'⟩ := SchemaDraft.exists_schemaOf_of_perm hsources.symm h'
    cases h.symm.trans h''
    refine .inr ⟨S, S', rfl, h', fun E d => ?_⟩
    exact { E with schema := S' }.estimate_of_within hwithin hwithin' d
  | error e =>
    cases h' : SchemaDraft.schemaOf read sources' with
    | error e' => exact .inl ⟨⟨e, rfl⟩, e', rfl⟩
    | ok S' =>
      obtain ⟨S, hS, -⟩ := SchemaDraft.exists_schemaOf_of_perm hsources.symm h'
      cases h.symm.trans hS

namespace Sample

open SchemaDraft

/-- Two extensions of a type that only the last text declares. -/
def extensionsFirst : List (Option String × String) :=
  [(some "users.graphql", "extend type Query { users(first: Int): [User] }"),
    (some "viewer.graphql", "extend type Query { viewer: User }"),
    (none, "type Query type User { users(first: Int): [User] }")]

def queryFields? (sources : List (Option String × String)) : Option (List String) :=
  (schemaOf Declaration.parse sources).toOption.bind fun S =>
    (S.type? "Query").map NamedType.fieldNames

theorem queryFields_extensionsFirst :
    queryFields? extensionsFirst = some ["users", "viewer"] ∧
    queryFields? extensionsFirst.reverse = some ["viewer", "users"] := by
  decide +kernel

/-- What the texts declare. -/
def declaredFirst : List (Option String × Declaration) :=
  [(some "users.graphql", .extension ⟨⟨1, 8⟩, "Query", .object [] [users 21]⟩),
    (some "viewer.graphql", .extension ⟨⟨1, 8⟩, "Query",
      .object [] [⟨⟨1, 21⟩, "viewer", .named "User"⟩]⟩),
    (none, .type ⟨⟨1, 1⟩, "Query", .object [] []⟩),
    (none, .type ⟨⟨1, 12⟩, "User", .object [] [users 24]⟩)]
where
  users (column : Nat) : FieldDeclaration := ⟨⟨1, column⟩, "users", .list (.named "User")⟩

theorem declarationsOf_extensionsFirst :
    declarationsOf Declaration.parse extensionsFirst = declaredFirst := by
  decide +kernel

/-- Both fields of the query come from extensions. -/
def usersDocument : Document where
  definitions := [query [
    page "users" ("first", .var "n") [page "users" ("first", .int 30) [select "id" []]],
    select "viewer" [select "id" []]]]

def usersEstimator (S : Schema) : Estimator where
  schema := S
  bindings := NameMap.ofList [("n", 200)]

theorem estimate_usersDocument :
    ((empty.declareFrom declaredFirst >>= build).toOption.bind fun S =>
      ((usersEstimator S).estimate usersDocument).result.toOption) = some ⟨2, 6201⟩ := by
  cbv

theorem estimate_usersDocument_of_schemaOf {S : Schema}
    (h : schemaOf Declaration.parse extensionsFirst = .ok S) :
    ((usersEstimator S).estimate usersDocument).result = .ok ⟨2, 6201⟩ := by
  obtain ⟨-, draft, hdraft, hbuild⟩ := schemaOf_eq_ok_iff.mp h
  rw [declarationsOf_extensionsFirst] at hdraft
  have hvalue := estimate_usersDocument
  rw [bind_eq_ok.mpr ⟨draft, hdraft, hbuild⟩] at hvalue
  exact Logged.toOption_eq_some_iff.mp hvalue

/-- A type may be extended before it is declared or after. The order of its fields tells the two
schemas apart, and no estimate does. -/
theorem estimate_extensionsFirst :
    extensionsFirst.Perm extensionsFirst.reverse ∧
    ∃ S S', schemaOf Declaration.parse extensionsFirst = .ok S ∧
      schemaOf Declaration.parse extensionsFirst.reverse = .ok S' ∧
      (S.type? "Query").map NamedType.fieldNames = some ["users", "viewer"] ∧
      (S'.type? "Query").map NamedType.fieldNames = some ["viewer", "users"] ∧
      (∀ (E : Estimator) (d : Document),
        ({ E with schema := S }.estimate d).result =
          ({ E with schema := S' }.estimate d).result) ∧
      ((usersEstimator S).estimate usersDocument).result = .ok ⟨2, 6201⟩ ∧
      ((usersEstimator S').estimate usersDocument).result = .ok ⟨2, 6201⟩ := by
  have hperm : extensionsFirst.Perm extensionsFirst.reverse := (List.reverse_perm _).symm
  obtain ⟨hfields, hfields'⟩ := queryFields_extensionsFirst
  rw [queryFields?] at hfields hfields'
  rcases Estimator.estimate_of_reordered_sources Declaration.parse _ _ hperm with
    ⟨⟨e, he⟩, -⟩ | ⟨S, S', hS, hS', hsame⟩
  · rw [he] at hfields
    cases hfields
  · rw [hS] at hfields
    rw [hS'] at hfields'
    have hvalue := estimate_usersDocument_of_schemaOf hS
    exact ⟨hperm, S, S', hS, hS', hfields, hfields', hsame, hvalue,
      (hsame (usersEstimator S) usersDocument).symm.trans hvalue⟩

end Sample

end QueryTariff
