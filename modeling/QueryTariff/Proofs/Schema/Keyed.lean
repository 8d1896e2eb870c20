import QueryTariff.Proofs.Schema.WellFormed

/-!
Names as keys. Whatever texts and files a draft is loaded from, its types and their fields stand
under their own names, and so they do in the schema that it makes. The root types of that schema are
objects, and they are those that blocks bind or that have the default names (`keyed_of_loadAll`).
-/

namespace QueryTariff

/-- One call that takes in texts. -/
inductive Load where
  | text (file? : Option String) (content : String)
  | file (disk : Disk) (path : String)
  | files (disk : Disk) (paths : List String)

namespace Load

/-- Makes the call, with texts read as `read` reads them. -/
def run (read : String → Except Position (List Declaration)) (draft : SchemaDraft) :
    Load → Logged SchemaError SchemaDraft
  | text file? content => draft.loadWith read file? content
  | file disk path => draft.loadFileWith read disk path
  | files disk paths => draft.loadFilesWith read disk paths

/-- The text of a file, if it can be read. -/
def sourceAt? (disk : Disk) (path : String) : Option (Option String × String) :=
  (disk.readText path).toOption.map (some path, ·)

/-- The texts that a call takes in, each with the file it stands in. -/
def sources : Load → List (Option String × String)
  | text file? content => [(file?, content)]
  | file disk path => (sourceAt? disk path).toList
  | files disk paths => paths.filterMap (sourceAt? disk)

end Load

namespace SchemaDraft

/-- Makes calls one after the other. -/
def loadAll (read : String → Except Position (List Declaration)) (draft : SchemaDraft)
    (loads : List Load) : Except SchemaError SchemaDraft :=
  loads.foldlM (fun draft l => (l.run read draft).result) draft

/-- What calls declare, in the order in which they take it in. -/
def declaredBy (read : String → Except Position (List Declaration)) (loads : List Load) :
    List (Option String × Declaration) :=
  declarationsOf read (loads.flatMap Load.sources)

/-! ### Calls and the declarations they take in -/

section
variable {read : String → Except Position (List Declaration)} {draft draft' : SchemaDraft}
  {file? : Option String} {text path : String} {disk : Disk}

theorem declareFrom_of_loadWith (h : (draft.loadWith read file? text).result = .ok draft') :
    draft.declareFrom (declarationsOf read [(file?, text)]) = .ok draft' := by
  rw [declarationsOf, List.flatMap_singleton]
  exact ((@loadWith_eq_ok_iff read draft draft' (file?, text)).mp h).2

theorem declareFrom_of_loadFileWith (h : (draft.loadFileWith read disk path).result = .ok draft') :
    draft.declareFrom (declarationsOf read (Load.sourceAt? disk path).toList) = .ok draft' := by
  rw [loadFileWith] at h
  rw [Load.sourceAt?]
  cases htext : disk.readText path with
  | error fault =>
    rw [htext] at h
    cases h
  | ok text =>
    rw [htext] at h
    exact declareFrom_of_loadWith h

theorem declareFrom_of_loadFilesWith {paths : List String}
    (h : (draft.loadFilesWith read disk paths).result = .ok draft') :
    draft.declareFrom (declarationsOf read (paths.filterMap (Load.sourceAt? disk))) =
      .ok draft' := by
  induction paths generalizing draft with
  | nil => exact h
  | cons path paths ih =>
    rw [loadFilesWith, Logged.result_bind_eq_ok] at h
    obtain ⟨m, hm, hrest⟩ := h
    have hcons : (path :: paths).filterMap (Load.sourceAt? disk) =
        (Load.sourceAt? disk path).toList ++ paths.filterMap (Load.sourceAt? disk) := by
      cases hsource : Load.sourceAt? disk path <;> simp [hsource]
    rw [hcons, declarationsOf, List.flatMap_append, declareFrom_append, bind_eq_ok]
    exact ⟨m, declareFrom_of_loadFileWith hm, ih hrest⟩

theorem declareFrom_of_run {l : Load} (h : (l.run read draft).result = .ok draft') :
    draft.declareFrom (declarationsOf read l.sources) = .ok draft' := by
  cases l with
  | text file? content => exact declareFrom_of_loadWith h
  | file disk path => exact declareFrom_of_loadFileWith h
  | files disk paths => exact declareFrom_of_loadFilesWith h

/-- To make calls is to take in one by one what they declare. -/
theorem declareFrom_of_loadAll {loads : List Load} (h : draft.loadAll read loads = .ok draft') :
    draft.declareFrom (declaredBy read loads) = .ok draft' := by
  induction loads generalizing draft with
  | nil => exact h
  | cons l loads ih =>
    rw [loadAll, List.foldlM_cons, bind_eq_ok] at h
    obtain ⟨m, hm, hrest⟩ := h
    rw [declaredBy, List.flatMap_cons, declarationsOf, List.flatMap_append, declareFrom_append,
      bind_eq_ok]
    exact ⟨m, declareFrom_of_run hm, ih hrest⟩

end

/-- A program makes its calls with the parser of schema texts. -/
example (draft : SchemaDraft) (l : Load) : l.run Declaration.parse draft =
    match l with
    | .text file? content => draft.load file? content
    | .file disk path => draft.loadFile disk path
    | .files disk paths => draft.loadFiles disk paths := by
  cases l <;> rfl

end SchemaDraft

/-! ### Types under their names -/

/-- Types stand under their names, and their fields under theirs; the built-in scalars are there. -/
structure NameMap.Keyed (types : NameMap NamedType) : Prop where
  names : ∀ e ∈ types.entries, e.2.name = e.1
  fieldNames : ∀ e ∈ types.entries, ∀ f ∈ e.2.fields, f.2.name = f.1
  builtIns : ∀ s : BuiltInScalar, ∃ t, types.get? s.name = some t ∧ t = .builtIn s ∧
    t.location = .builtIn

namespace SchemaDraft

theorem name_of_mem_fieldsOf {file? : Option String} {fs : List FieldDeclaration}
    {f : String × FieldDefinition} (hf : f ∈ fieldsOf file? fs) : f.2.name = f.1 := by
  obtain ⟨g, -, rfl⟩ := List.mem_map.mp hf
  rfl

theorem name_of_mem_addedFields {xs : List (Option String × TypeDeclaration)}
    {f : String × FieldDefinition} (hf : f ∈ addedFields xs) : f.2.name = f.1 := by
  obtain ⟨x, -, hx⟩ := List.mem_flatMap.mp hf
  exact name_of_mem_fieldsOf hx

section
variable {ds : List (Option String × Declaration)} {draft : SchemaDraft} {S : Schema}

theorem Describes.keyed (hd : Describes ds draft) : draft.types.Keyed := by
  refine ⟨?_, ?_, fun s => ⟨.builtIn s, (hd.types _ _).mpr (.inl ⟨s, rfl, rfl⟩), rfl, rfl⟩⟩
  · rintro ⟨n, t⟩ ht
    rcases (hd.types n t).mp (NameMap.get?_eq_some_iff.mpr ht) with ⟨s, hn, rfl⟩ | ⟨x, -, hn, htype⟩
    · exact hn
    · exact (statedBy_of_typeOf htype).name.trans hn
  · rintro ⟨n, t⟩ ht f hf
    rcases (hd.types n t).mp (NameMap.get?_eq_some_iff.mpr ht) with ⟨s, -, rfl⟩ | ⟨x, -, -, htype⟩
    · cases hf
    · rw [(statedBy_of_typeOf htype).fields] at hf
      exact name_of_mem_fieldsOf hf

/-- Extensions keep all names: a type stays under its own, and the fields it gets have theirs. -/
theorem keyed_of_build (hd : Describes ds draft) (hbuild : draft.build = .ok S) :
    S.types.Keyed := by
  have hkeyed := hd.keyed
  have hbefore {n : String} {t : NamedType} (ht : (n, t) ∈ S.types.entries) :
      ∃ u, (n, u) ∈ draft.types.entries ∧
        ExtendedBy (extensionsNamed n (extensionsOf ds)) u t := by
    obtain ⟨u, hu, hby⟩ :=
      (relatedBy_of_build hd hbuild n).exists_left (NameMap.get?_eq_some_iff.mpr ht)
    exact ⟨u, NameMap.get?_eq_some_iff.mp hu, hby⟩
  refine ⟨?_, ?_, fun s => ⟨.builtIn s, type?_builtIn_of_build hd hbuild s, rfl, rfl⟩⟩
  · rintro ⟨n, t⟩ ht
    obtain ⟨u, hu, hby⟩ := hbefore ht
    exact hby.name.trans (hkeyed.names (n, u) hu)
  · rintro ⟨n, t⟩ ht f hf
    obtain ⟨u, hu, hby⟩ := hbefore ht
    rw [hby.fields, List.mem_append] at hf
    rcases hf with hf | hf
    · exact hkeyed.fieldNames (n, u) hu f hf
    · exact name_of_mem_addedFields hf

end

/-! ### Root types -/

/-- The name that the root type of a kind goes by: the one that a block binds to the kind, or else
the default one. -/
def rootNameOf (ds : List (Option String × Declaration)) (kind : OperationKind) : String :=
  ((bindingsOf ds kind).head?.map RootBinding.type).getD kind.defaultRoot

/-- The root types are objects, found by the names that the declarations give them. There is one for
queries; there is one for any kind exactly if a block binds it, or if none does and an object type
has its default name. -/
structure RootedBy (ds : List (Option String × Declaration)) (S : Schema) : Prop where
  query : (S.rootObject? .query).isSome = true
  isSome_iff : ∀ kind, (S.rootObject? kind).isSome = true ↔
    bindingsOf ds kind ≠ [] ∨ bindingsOf ds kind = [] ∧ Declares ds kind.defaultRoot .object
  root : ∀ kind t, S.root? kind = some t →
    t.isObject = true ∧ t.name = rootNameOf ds kind ∧ S.type? (rootNameOf ds kind) = some t

theorem resolveRoot_eq_some_iff {types : NameMap NamedType} {roots : ByKind (Option RootBinding)}
    {kind : OperationKind} {n : String} :
    resolveRoot types roots kind = .ok (some n) ↔
      n = ((roots.get kind).map RootBinding.type).getD kind.defaultRoot ∧
        (types.get? n).map NamedType.kind = some .object := by
  rw [resolveRoot_eq]
  cases roots.get kind with
  | none =>
    dsimp only [Option.map_none, Option.getD_none]
    split_ifs <;> grind
  | some b =>
    dsimp only [Option.map_some, Option.getD_some]
    split <;> grind

section
variable {ds : List (Option String × Declaration)} {draft : SchemaDraft} {S : Schema}

theorem Describes.rootNameOf (hd : Describes ds draft) (kind : OperationKind) :
    rootNameOf ds kind = ((draft.roots.get kind).map RootBinding.type).getD kind.defaultRoot := by
  rw [SchemaDraft.rootNameOf, ← hd.roots kind]
  cases draft.roots.get kind <;> rfl

theorem rootName?_eq_some_iff_of_build (hd : Describes ds draft) (hbuild : draft.build = .ok S)
    {kind : OperationKind} {n : String} :
    S.rootName? kind = some n ↔
      n = rootNameOf ds kind ∧ ∃ t, S.type? n = some t ∧ t.kind = .object := by
  have hroot := (build_eq_ok_iff.mp hbuild).2 kind
  have hsome := @resolveRoot_eq_some_iff S.types draft.roots kind n
  rw [hroot, Except.ok.injEq, Option.map_eq_some_iff, ← hd.rootNameOf] at hsome
  exact hsome

theorem rootName?_eq_none_iff_of_build (hc : Consistent ds) (hd : Describes ds draft)
    (hbuild : draft.build = .ok S) {kind : OperationKind} :
    S.rootName? kind = none ↔ bindingsOf ds kind = [] ∧ ¬ Declares ds kind.defaultRoot .object := by
  have hroot := (build_eq_ok_iff.mp hbuild).2 kind
  -- Extensions do not change the kinds of types.
  have hkind := map_kind_of_rel (fun _ _ => ExtendedBy.kind)
    (relatedBy_of_build hd hbuild kind.defaultRoot)
  have hnone := @resolveRoot_eq_none_iff S.types draft.roots kind
  rw [hroot, Except.ok.injEq, hd.roots_eq_none_iff] at hnone
  rw [hnone, ← knows_object_iff, ← hd.kind_iff hc, ← hkind]
  rfl

/-- Every root type is an object, and found by its name. -/
theorem root?_eq_some_iff_of_build (hd : Describes ds draft) (hbuild : draft.build = .ok S)
    {kind : OperationKind} {t : NamedType} :
    S.root? kind = some t ↔ S.rootName? kind = some (rootNameOf ds kind) ∧
      S.type? (rootNameOf ds kind) = some t ∧ t.isObject = true := by
  rw [Schema.root?, Option.bind_eq_bind, Option.bind_eq_some_iff]
  constructor
  · rintro ⟨n, hn, ht⟩
    obtain ⟨hname, u, hu, hkind⟩ := (rootName?_eq_some_iff_of_build hd hbuild).mp hn
    rw [ht] at hu
    cases hu
    rw [← hname, NamedType.isObject_eq, hkind]
    exact ⟨hn, ht, rfl⟩
  · rintro ⟨hn, ht, -⟩
    exact ⟨_, hn, ht⟩

theorem isSome_rootObject?_iff_of_build (hd : Describes ds draft) (hbuild : draft.build = .ok S)
    (kind : OperationKind) :
    (S.rootObject? kind).isSome = true ↔ S.rootName? kind ≠ none := by
  rw [Schema.rootObject?, Option.isSome_filter, Option.any_eq_true, Option.ne_none_iff_exists']
  constructor
  · rintro ⟨t, ht, -⟩
    exact ⟨_, ((root?_eq_some_iff_of_build hd hbuild).mp ht).1⟩
  · rintro ⟨n, hn⟩
    obtain ⟨rfl, t, ht, hkind⟩ := (rootName?_eq_some_iff_of_build hd hbuild).mp hn
    have hobject : t.isObject = true := by rw [NamedType.isObject_eq, hkind]; rfl
    exact ⟨t, (root?_eq_some_iff_of_build hd hbuild).mpr ⟨hn, ht, hobject⟩, hobject⟩

theorem rootedBy_of_build (hc : Consistent ds) (hd : Describes ds draft)
    (hbuild : draft.build = .ok S) : RootedBy ds S := by
  refine ⟨?_, fun kind => ?_, fun kind t ht => ?_⟩
  · rw [isSome_rootObject?_iff_of_build hd hbuild]
    exact nofun
  · rw [isSome_rootObject?_iff_of_build hd hbuild, ne_eq,
      rootName?_eq_none_iff_of_build hc hd hbuild]
    by_cases hbound : bindingsOf ds kind = [] <;> simp [hbound]
  · obtain ⟨-, htype, hobject⟩ := (root?_eq_some_iff_of_build hd hbuild).mp ht
    have hmem := NameMap.get?_eq_some_iff.mp htype
    exact ⟨hobject, (keyed_of_build hd hbuild).names _ hmem, htype⟩

/-- However a draft comes about, and in whatever way texts are read, its types and their fields are
found by their own names, the built-in scalars are among them, and of the schema that it makes the
same is true. The root types of that schema are what the declarations say. -/
theorem keyed_of_loadAll (read : String → Except Position (List Declaration)) (loads : List Load)
    (draft : SchemaDraft) (h : empty.loadAll read loads = .ok draft) :
    draft.types.Keyed ∧
      ∀ S, draft.build = .ok S → S.types.Keyed ∧ RootedBy (declaredBy read loads) S := by
  obtain ⟨hc, hd⟩ := describes_of_declareFrom (declareFrom_of_loadAll h)
  exact ⟨hd.keyed, fun S hbuild => ⟨keyed_of_build hd hbuild, rootedBy_of_build hc hd hbuild⟩⟩

end

end SchemaDraft

namespace Sample

open SchemaDraft

/-- A text that binds and extends a type before the file that declares it is read. -/
def loads : List Load :=
  [.text none "schema { query: Q } extend type Q { b: Int }",
    .files disk ["types.graphql", "more.graphql"]]
where
  disk : Disk
    | "types.graphql" => .ok (.file "type Q { a: Q } type Query { a: Int }".toUTF8.toList)
    | "more.graphql" => .ok (.file "type Mutation { a: Q } scalar Subscription".toUTF8.toList)
    | _ => .error .missing

/-- What the calls declare. -/
def declaredInLoads : List (Option String × Declaration) := declaredBy Declaration.parse loads

theorem loads_facts :
    (empty.loadAll Declaration.parse loads >>= build).isOk = true ∧
    rootNameOf declaredInLoads .query = "Q" ∧
    (∃ x ∈ typesOf declaredInLoads, x.2.name = "Mutation" ∧ x.2.body.kind = .object) ∧
    ¬ ∃ x ∈ typesOf declaredInLoads, x.2.name = "Subscription" ∧ x.2.body.kind = .object := by
  decide +kernel

theorem bindingsOf_loads :
    bindingsOf declaredInLoads .mutation = [] ∧ bindingsOf declaredInLoads .subscription = [] := by
  decide +kernel

/-- Queries start from the type that the block binds, and mutations from the one of the default
name; what has the default name for subscriptions is no object. -/
theorem keyed_of_loads :
    ∃ draft S, empty.loadAll Declaration.parse loads = .ok draft ∧ draft.build = .ok S ∧
      draft.types.Keyed ∧ S.types.Keyed ∧
      (∃ t, S.rootObject? .query = some t ∧ t.name = "Q") ∧
      (S.rootObject? .mutation).isSome = true ∧ ¬ (S.rootObject? .subscription).isSome = true := by
  obtain ⟨hok, hquery, hmutation, hsubscription⟩ := loads_facts
  obtain ⟨S, hS⟩ := exists_eq_ok_of_isOk hok
  obtain ⟨draft, hdraft, hbuild⟩ := bind_eq_ok.mp hS
  obtain ⟨hkeyed, hschema⟩ := keyed_of_loadAll Declaration.parse loads draft hdraft
  obtain ⟨hkeyed', hrooted⟩ : S.types.Keyed ∧ RootedBy declaredInLoads S := hschema S hbuild
  refine ⟨draft, S, hdraft, hbuild, hkeyed, hkeyed', ?_, ?_, ?_⟩
  · obtain ⟨t, ht⟩ := Option.isSome_iff_exists.mp hrooted.query
    have hname := (hrooted.root .query t (Option.filter_eq_some_iff.mp ht).1).2.1
    exact ⟨t, ht, hname.trans hquery⟩
  · exact (hrooted.isSome_iff .mutation).mpr (.inr ⟨bindingsOf_loads.1, hmutation⟩)
  · rw [hrooted.isSome_iff, bindingsOf_loads.2]
    rintro (hbound | ⟨-, hdeclared⟩)
    · exact hbound rfl
    · exact hsubscription hdeclared

end Sample

end QueryTariff
