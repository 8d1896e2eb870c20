import QueryTariff.Proofs.Schema.Annotation
import QueryTariff.Proofs.Schema.LoadOrder

/-!
What a schema holds. Its types are the built-in scalars and the declared ones, each with what its
extensions add in the order in which they came, wherever they stand (`types_of_schemaOf`). Looked up
by its name, a field has the place and the type of its declaration.

Interfaces are an exception in one respect. They get fields from their extensions but not the
interfaces that an extension names, which objects do get (`interfaces_of_interface`).
-/

namespace QueryTariff

theorem exists_eq_ok_of_isOk {ε α : Type} {x : Except ε α} (h : x.isOk = true) :
    ∃ a, x = .ok a := by
  cases x with
  | ok a => exact ⟨a, rfl⟩
  | error e => cases h

namespace SchemaDraft

section
variable {x : Option String × TypeDeclaration} {xs : List (Option String × TypeDeclaration)}
  {type type' : NamedType}

/-- The type says what the declaration says, and no more. -/
structure StatedBy (x : Option String × TypeDeclaration) (type : NamedType) : Prop where
  name : type.name = x.2.name
  kind : type.kind = x.2.body.kind
  location : type.location = .source x.1 x.2.position
  fields : type.fields = fieldsOf x.1 x.2.body.fields
  interfaces : type.interfaces = x.2.body.interfaces
  members : type.members = x.2.body.members
  values : type.values = x.2.body.values

theorem statedBy_of_typeOf (h : typeOf x.1 x.2 = .ok type) : StatedBy x type := by
  obtain ⟨file?, position, name, body⟩ := x
  unfold typeOf at h
  cases body with
  | object interfaces fs =>
    obtain ⟨m, hm, hok⟩ := bind_eq_ok.mp h
    cases hok
    have hfields : m.entries = fieldsOf file? fs := (addFields_eq_ok_iff.mp hm).2
    exact ⟨rfl, rfl, rfl, hfields, rfl, rfl, rfl⟩
  | interface interfaces fs =>
    obtain ⟨m, hm, hok⟩ := bind_eq_ok.mp h
    cases hok
    have hfields : m.entries = fieldsOf file? fs := (addFields_eq_ok_iff.mp hm).2
    exact ⟨rfl, rfl, rfl, hfields, rfl, rfl, rfl⟩
  | _ =>
    cases h
    exact ⟨rfl, rfl, rfl, rfl, rfl, rfl, rfl⟩

/-- The type is the declared one with what extensions add: each list is that of the declaration,
followed by those of the extensions. -/
structure Merged (x : Option String × TypeDeclaration)
    (xs : List (Option String × TypeDeclaration)) (type : NamedType) : Prop where
  name : type.name = x.2.name
  kind : type.kind = x.2.body.kind
  location : type.location = .source x.1 x.2.position
  fields : type.fields = fieldsOf x.1 x.2.body.fields ++ addedFields xs
  interfaces : x.2.body.kind = .object →
    type.interfaces = x.2.body.interfaces ++ addedNames TypeBody.interfaces xs
  members : type.members = x.2.body.members ++ addedNames TypeBody.members xs
  values : type.values = x.2.body.values ++ addedNames TypeBody.values xs
  /-- Each field says what the declaration that it comes from says. -/
  declared : ∀ y ∈ x :: xs, ∀ f ∈ y.2.body.fields, ∃ g, type.field? f.name = some g ∧
    g.name = f.name ∧ g.location = .source y.1 f.position ∧
    (f.type.MarkedOnce → Annotation.Represents g.location f.type g.annotation)
  /-- Scalars and inputs are what they were declared to be. -/
  unchanged : x.2.body.kind = .scalar ∨ x.2.body.kind = .input → typeOf x.1 x.2 = .ok type

theorem mem_fieldsOf (file? : Option String) {f : FieldDeclaration} {fs : List FieldDeclaration}
    (hf : f ∈ fs) : (f.name, fieldOf file? f) ∈ fieldsOf file? fs :=
  List.mem_map.mpr ⟨f, hf, rfl⟩

theorem mem_fieldsOf_append_addedFields {y : Option String × TypeDeclaration}
    {f : FieldDeclaration} (hy : y ∈ x :: xs) (hf : f ∈ y.2.body.fields) :
    (f.name, fieldOf y.1 f) ∈ fieldsOf x.1 x.2.body.fields ++ addedFields xs := by
  rcases List.mem_cons.mp hy with rfl | hxs
  · exact List.mem_append_left _ (mem_fieldsOf y.1 hf)
  · exact List.mem_append_right _ (List.mem_flatMap.mpr ⟨y, hxs, mem_fieldsOf y.1 hf⟩)

theorem merged_of_extendedBy (h : typeOf x.1 x.2 = .ok type) (h' : ExtendedBy xs type type') :
    Merged x xs type' := by
  have hstated := statedBy_of_typeOf h
  have hfields : type'.fields = fieldsOf x.1 x.2.body.fields ++ addedFields xs := by
    rw [h'.fields, hstated.fields]
  refine ⟨h'.name.trans hstated.name, h'.kind.trans hstated.kind,
    h'.location.trans hstated.location, hfields, ?_, ?_, ?_, ?_, ?_⟩
  · intro hkind
    have hadded : addedInterfaces type.kind xs = addedNames TypeBody.interfaces xs :=
      if_pos (hstated.kind.trans hkind)
    rw [h'.interfaces, hstated.interfaces, hadded]
  · rw [h'.members, hstated.members]
  · rw [h'.values, hstated.values]
  · intro y hy f hf
    have hmem : (f.name, fieldOf y.1 f) ∈ type'.fields := by
      rw [hfields]
      exact mem_fieldsOf_append_addedFields hy hf
    exact ⟨fieldOf y.1 f, NamedType.field?_eq_some_iff.mpr hmem, rfl, rfl,
      Annotation.represents_ofTypeRef _⟩
  · intro hkind
    rw [← hstated.kind] at hkind
    rw [h'.unchanged hkind, h]

end

/-! ### The types of a schema -/

section
variable {ds : List (Option String × Declaration)} {draft : SchemaDraft} {S : Schema}
  {x : Option String × TypeDeclaration}

theorem relatedBy_of_build (hd : Describes ds draft) (hbuild : draft.build = .ok S) (n : String) :
    RelatedBy (extensionsNamed n (extensionsOf ds)) (draft.types.get? n) (S.type? n) := by
  have htypes := (build_eq_ok_iff.mp hbuild).1
  rw [hd.extensions] at htypes
  exact extendedBy_of_applyExtensions htypes n

/-- A declared type is in the schema with what its extensions add. -/
theorem exists_type_of_build (hc : Consistent ds) (hd : Describes ds draft)
    (hbuild : draft.build = .ok S) (hx : x ∈ typesOf ds) :
    ∃ type type', typeOf x.1 x.2 = .ok type ∧ S.type? x.2.name = some type' ∧
      ExtendedBy (extensionsNamed x.2.name (extensionsOf ds)) type type' := by
  obtain ⟨type, htype, hget⟩ := hd.exists_type hc hx
  obtain ⟨type', htype', hby⟩ := (relatedBy_of_build hd hbuild x.2.name).exists_right hget
  exact ⟨type, type', htype, htype', hby⟩

theorem type?_builtIn_of_build (hd : Describes ds draft) (hbuild : draft.build = .ok S)
    (s : BuiltInScalar) : S.type? s.name = some (.builtIn s) := by
  have hget : draft.types.get? s.name = some (.builtIn s) :=
    (hd.types _ _).mpr (.inl ⟨s, rfl, rfl⟩)
  obtain ⟨type, htype, hby⟩ := (relatedBy_of_build hd hbuild s.name).exists_right hget
  rw [htype, hby.unchanged (.inl rfl)]

theorem nodup_names (hc : Consistent ds) :
    (BuiltInScalar.all.map BuiltInScalar.name ++ typeNamesOf ds).Nodup := by
  rw [List.nodup_append]
  refine ⟨by decide, hc.types, ?_⟩
  intro n hn m hm hnm
  obtain ⟨s, -, hs⟩ := List.mem_map.mp hn
  obtain ⟨x, hx, rfl⟩ := List.mem_map.mp hm
  exact hc.builtIns x hx (isName_iff.mpr ⟨s, hs.trans hnm⟩)

/-- Extensions change types but neither add nor remove any. -/
theorem mem_keys_of_build_iff (hc : Consistent ds) (hd : Describes ds draft)
    (hbuild : draft.build = .ok S) (n : String) :
    n ∈ S.types.keys ↔ n ∈ BuiltInScalar.all.map BuiltInScalar.name ++ typeNamesOf ds := by
  have hnone : S.types.get? n = none ↔ draft.types.get? n = none := by
    have hrel : RelatedBy _ (draft.types.get? n) (S.types.get? n) := relatedBy_of_build hd hbuild n
    generalize draft.types.get? n = t? at hrel
    generalize S.types.get? n = t?' at hrel
    cases hrel <;> simp
  have hbuiltIn : n ∈ BuiltInScalar.all.map BuiltInScalar.name ↔
      BuiltInScalar.isName n = true := by
    rw [isName_iff, List.mem_map]
    simp [mem_builtIns]
  rw [← not_iff_not, ← NameMap.get?_eq_none_iff, hnone, hd.get?_eq_none_iff hc, List.mem_append,
    not_or, hbuiltIn]

end

/-- The types of a schema are the built-in scalars and one for each declaration of a type, whose
every part is what the declaration says followed by what the extensions of the type add. -/
theorem types_of_schemaOf (read : String → Except Position (List Declaration))
    (sources : List (Option String × String)) (S : Schema) (h : schemaOf read sources = .ok S) :
    S.types.keys.Perm (BuiltInScalar.all.map BuiltInScalar.name ++
      typeNamesOf (declarationsOf read sources)) ∧
    (∀ s : BuiltInScalar, S.type? s.name = some (.builtIn s)) ∧
    ∀ x ∈ typesOf (declarationsOf read sources), ∃ type, S.type? x.2.name = some type ∧
      Merged x (extensionsNamed x.2.name (extensionsOf (declarationsOf read sources))) type := by
  obtain ⟨-, draft, hdraft, hbuild⟩ := schemaOf_eq_ok_iff.mp h
  obtain ⟨hc, hd⟩ := describes_of_declareFrom hdraft
  refine ⟨?_, type?_builtIn_of_build hd hbuild, ?_⟩
  · have hkeys : S.types.keys.Nodup := S.types.nodup
    exact (List.perm_ext_iff_of_nodup hkeys (nodup_names hc)).mpr
      (mem_keys_of_build_iff hc hd hbuild)
  · intro x hx
    obtain ⟨type, type', htype, htype', hby⟩ := exists_type_of_build hc hd hbuild hx
    exact ⟨type', htype', merged_of_extendedBy htype hby⟩

/-- An interface names the interfaces that it is declared with and no others. So the list is the one
that extensions should make of it only where none of them names an interface. -/
theorem interfaces_of_interface (read : String → Except Position (List Declaration))
    (sources : List (Option String × String)) (S : Schema) (x : Option String × TypeDeclaration)
    (h : schemaOf read sources = .ok S) (hx : x ∈ typesOf (declarationsOf read sources))
    (hkind : x.2.body.kind = .interface) :
    ∃ type, S.type? x.2.name = some type ∧ type.kind = .interface ∧
      type.interfaces = x.2.body.interfaces ∧
      (type.interfaces = x.2.body.interfaces ++ addedNames TypeBody.interfaces
          (extensionsNamed x.2.name (extensionsOf (declarationsOf read sources))) ↔
        ∀ y ∈ extensionsNamed x.2.name (extensionsOf (declarationsOf read sources)),
          y.2.body.interfaces = []) := by
  obtain ⟨-, draft, hdraft, hbuild⟩ := schemaOf_eq_ok_iff.mp h
  obtain ⟨hc, hd⟩ := describes_of_declareFrom hdraft
  obtain ⟨type, type', htype, htype', hby⟩ := exists_type_of_build hc hd hbuild hx
  have hstated := statedBy_of_typeOf htype
  have hinterface : type.kind = .interface := hstated.kind.trans hkind
  have hinterfaces : type'.interfaces = x.2.body.interfaces := by
    rw [hby.interfaces, hinterface, hstated.interfaces]
    exact List.append_nil _
  refine ⟨type', htype', hby.kind.trans hinterface, hinterfaces, ?_⟩
  rw [hinterfaces, List.self_eq_append_right, addedNames, List.flatMap_eq_nil_iff]

end SchemaDraft

namespace Sample

open SchemaDraft

/-- An extension in a text of its own, before the type that it extends. -/
def extendedObject : List (Option String × String) :=
  [(some "more.graphql", "extend type A implements J { b: [Int!] }"),
    (none, "type Query { a: A }\ntype A implements I { a: Int! }")]

def objectA : Option String × TypeDeclaration :=
  (none, ⟨⟨2, 1⟩, "A", .object ["I"] [⟨⟨2, 23⟩, "a", .nonNull (.named "Int")⟩]⟩)

def extensionOfA : Option String × TypeDeclaration :=
  (some "more.graphql", ⟨⟨1, 8⟩, "A",
    .object ["J"] [⟨⟨1, 30⟩, "b", .list (.nonNull (.named "Int"))⟩]⟩)

theorem extendedObject_facts :
    (schemaOf Declaration.parse extendedObject).isOk = true ∧
    typeNamesOf (declarationsOf Declaration.parse extendedObject) = ["Query", "A"] ∧
    objectA ∈ typesOf (declarationsOf Declaration.parse extendedObject) ∧
    extensionsOf (declarationsOf Declaration.parse extendedObject) = [extensionOfA] := by
  decide +kernel

theorem types_of_extendedObject :
    ∃ S, schemaOf Declaration.parse extendedObject = .ok S ∧
      S.types.keys.Perm (BuiltInScalar.all.map BuiltInScalar.name ++ ["Query", "A"]) ∧
      (∀ s : BuiltInScalar, S.type? s.name = some (.builtIn s)) ∧
      ∃ type, S.type? "A" = some type ∧ Merged objectA [extensionOfA] type ∧
        type.fieldNames = ["a", "b"] ∧ type.interfaces = ["I", "J"] ∧
        (∃ a, type.field? "a" = some a ∧ a.location = .source none ⟨2, 23⟩ ∧
          a.annotation.text = "Int!") ∧
        ∃ b, type.field? "b" = some b ∧ b.location = .source (some "more.graphql") ⟨1, 30⟩ ∧
          b.annotation.text = "[Int!]" := by
  obtain ⟨hok, hnames, hmem, hextensions⟩ := extendedObject_facts
  obtain ⟨S, hS⟩ := exists_eq_ok_of_isOk hok
  obtain ⟨hkeys, hbuiltIns, htypes⟩ := types_of_schemaOf Declaration.parse extendedObject S hS
  obtain ⟨type, htype, hmerged⟩ := htypes objectA hmem
  rw [hnames] at hkeys
  rw [hextensions] at hmerged
  have hnames : type.fieldNames = ["a", "b"] := by
    rw [NamedType.fieldNames, hmerged.fields]
    rfl
  obtain ⟨a, ha, -, hplaceA, hreadsA⟩ :=
    hmerged.declared objectA List.mem_cons_self _ List.mem_cons_self
  obtain ⟨b, hb, -, hplaceB, hreadsB⟩ :=
    hmerged.declared extensionOfA (List.mem_cons_of_mem _ List.mem_cons_self) _ List.mem_cons_self
  have htextA : a.annotation.text = "Int!" := (hreadsA (by decide)).text
  have htextB : b.annotation.text = "[Int!]" := (hreadsB (by decide)).text
  exact ⟨S, hS, hkeys, hbuiltIns, type, htype, hmerged, hnames, hmerged.interfaces rfl,
    ⟨a, ha, hplaceA, htextA⟩, b, hb, hplaceB, htextB⟩

/-- An interface, and an extension of it that names another interface. -/
def extendedInterface : List (Option String × String) :=
  [(none, "type Query { a: Int }\ninterface I implements K { a: Int }\n" ++
    "extend interface I implements J { b: Int }")]

def interfaceI : Option String × TypeDeclaration :=
  (none, ⟨⟨2, 1⟩, "I", .interface ["K"] [⟨⟨2, 28⟩, "a", .named "Int"⟩]⟩)

def extensionOfI : Option String × TypeDeclaration :=
  (none, ⟨⟨3, 8⟩, "I", .interface ["J"] [⟨⟨3, 35⟩, "b", .named "Int"⟩]⟩)

theorem extendedInterface_facts :
    ((schemaOf Declaration.parse extendedInterface).toOption.bind fun S =>
      (S.type? "I").map NamedType.interfaces) = some ["K"] ∧
    interfaceI ∈ typesOf (declarationsOf Declaration.parse extendedInterface) ∧
    extensionsOf (declarationsOf Declaration.parse extendedInterface) = [extensionOfI] := by
  decide +kernel

theorem exists_schemaOf_extendedInterface :
    ∃ S type, schemaOf Declaration.parse extendedInterface = .ok S ∧ S.type? "I" = some type ∧
      type.interfaces = ["K"] := by
  obtain ⟨hresult, -⟩ := extendedInterface_facts
  obtain ⟨S, hS, hinterfaces⟩ := Option.bind_eq_some_iff.mp hresult
  obtain ⟨type, htype, hK⟩ := Option.map_eq_some_iff.mp hinterfaces
  exact ⟨S, type, Logged.toOption_eq_some_iff.mp hS, htype, hK⟩

/-- The interface that the extension names is lost. -/
theorem interfaces_not_merged :
    ∃ S type, schemaOf Declaration.parse extendedInterface = .ok S ∧
      interfaceI ∈ typesOf (declarationsOf Declaration.parse extendedInterface) ∧
      interfaceI.2.body.kind = .interface ∧ S.type? interfaceI.2.name = some type ∧
      type.interfaces ≠ interfaceI.2.body.interfaces ++ addedNames TypeBody.interfaces
        (extensionsNamed "I" (extensionsOf (declarationsOf Declaration.parse extendedInterface))) := by
  obtain ⟨S, type, hS, htype, hinterfaces⟩ := exists_schemaOf_extendedInterface
  obtain ⟨-, hmem, hextensions⟩ := extendedInterface_facts
  refine ⟨S, type, hS, hmem, rfl, htype, ?_⟩
  rw [hinterfaces, hextensions]
  decide

theorem interfaces_of_interfaceI :
    ∃ S type, schemaOf Declaration.parse extendedInterface = .ok S ∧
      interfaceI ∈ typesOf (declarationsOf Declaration.parse extendedInterface) ∧
      interfaceI.2.body.kind = .interface ∧ S.type? "I" = some type ∧ type.kind = .interface ∧
      type.interfaces = ["K"] ∧
      (type.interfaces = ["K"] ++ addedNames TypeBody.interfaces [extensionOfI] ↔
        ∀ y ∈ [extensionOfI], y.2.body.interfaces = []) := by
  obtain ⟨S, -, hS, -⟩ := exists_schemaOf_extendedInterface
  obtain ⟨-, hmem, hextensions⟩ := extendedInterface_facts
  obtain ⟨type, htype, hkind, hinterfaces, hiff⟩ :=
    interfaces_of_interface Declaration.parse extendedInterface S interfaceI hS hmem rfl
  rw [hextensions] at hiff
  exact ⟨S, type, hS, hmem, rfl, htype, hkind, hinterfaces, hiff⟩

end Sample

end QueryTariff
