import QueryTariff.Proofs.Schema.Fields
import Mathlib.Data.List.Induction

/-!
What a draft holds after declarations. Declarations can be taken in exactly if they do not clash
with each other (`exists_declareFrom_iff`). What the draft then holds is told by `Describes`, to
which the order of the declarations matters for extensions alone.
-/

namespace QueryTariff

namespace TypeBody

def kind : TypeBody → TypeKind
  | scalar => .scalar
  | object .. => .object
  | interface .. => .interface
  | union _ => .union
  | enum _ => .enum
  | input => .input

/-- The declared fields; only objects and interfaces have any. -/
def fields : TypeBody → List FieldDeclaration
  | object _ fs => fs
  | interface _ fs => fs
  | _ => []

/-- The interfaces that are named; only objects and interfaces name any. -/
def interfaces : TypeBody → List String
  | object is _ => is
  | interface is _ => is
  | _ => []

def members : TypeBody → List String
  | union ms => ms
  | _ => []

def values : TypeBody → List String
  | enum vs => vs
  | _ => []

end TypeBody

def TypeDeclaration.fieldNames (t : TypeDeclaration) : List String :=
  t.body.fields.map FieldDeclaration.name

namespace SchemaDraft

/-! ### What declarations declare, each with the file it stands in -/

/-- The type that a declaration declares, unless it is a built-in scalar declared again. -/
def typeIn? : Option String × Declaration → Option (Option String × TypeDeclaration)
  | (file?, .type t) => if redeclaresBuiltIn t then none else some (file?, t)
  | _ => none

def extensionIn? : Option String × Declaration → Option (Option String × TypeDeclaration)
  | (file?, .extension t) => some (file?, t)
  | _ => none

/-- The root type that a declaration binds to a kind. -/
def bindingIn? (kind : OperationKind) : Option String × Declaration → Option RootBinding
  | (file?, .roots r) => (r.types.get kind).map fun type => ⟨type, .source file? r.position⟩
  | _ => none

section
variable (ds : List (Option String × Declaration))

def typesOf : List (Option String × TypeDeclaration) := ds.filterMap typeIn?

def extensionsOf : List (Option String × TypeDeclaration) := ds.filterMap extensionIn?

def bindingsOf (kind : OperationKind) : List RootBinding := ds.filterMap (bindingIn? kind)

def typeNamesOf : List String := (typesOf ds).map fun x => x.2.name

/-- No type, no field of a type and no root type is declared twice. -/
structure Consistent : Prop where
  types : (typeNamesOf ds).Nodup
  builtIns : ∀ x ∈ typesOf ds, ¬ BuiltInScalar.isName x.2.name = true
  fields : ∀ x ∈ typesOf ds, x.2.fieldNames.Nodup
  roots : ∀ kind, (bindingsOf ds kind).length ≤ 1

/-- The draft holds the built-in scalars and what the declarations declare. -/
structure Describes (draft : SchemaDraft) : Prop where
  types : ∀ n t, draft.types.get? n = some t ↔
    (∃ s : BuiltInScalar, s.name = n ∧ t = .builtIn s) ∨
      ∃ x ∈ typesOf ds, x.2.name = n ∧ typeOf x.1 x.2 = .ok t
  roots : ∀ kind, (draft.roots.get kind).toList = bindingsOf ds kind
  extensions : draft.extensions = extensionsOf ds

end

/-- Takes in declarations one after the other. -/
def declareFrom (draft : SchemaDraft) (ds : List (Option String × Declaration)) :
    Except SchemaError SchemaDraft :=
  ds.foldlM (fun draft x => draft.declare x.1 x.2) draft

/-! ### Taking in a type -/

theorem exists_typeOf_iff {file? : Option String} {t : TypeDeclaration} :
    (∃ type, typeOf file? t = .ok type) ↔ t.fieldNames.Nodup := by
  have hfields (make : NameMap FieldDefinition → NamedType) (fs : List FieldDeclaration) :
      (∃ type, (addFields file? t.name .empty fs >>= fun m => .ok (make m)) = .ok type) ↔
        (fs.map FieldDeclaration.name).Nodup :=
    exists_bind_ok_iff.trans exists_addFields_iff
  rw [typeOf, TypeDeclaration.fieldNames]
  cases t.body with
  | object is fs => exact hfields _ fs
  | interface is fs => exact hfields _ fs
  | _ => exact ⟨fun _ => List.nodup_nil, fun _ => ⟨_, rfl⟩⟩

theorem addType_eq_ok_iff {file? : Option String} {draft draft' : SchemaDraft} {t : TypeDeclaration}
    (ht : ¬ redeclaresBuiltIn t = true) :
    draft.addType file? t = .ok draft' ↔
      draft.types.get? t.name = none ∧ ∃ type, typeOf file? t = .ok type ∧
        draft' = { draft with types := draft.types.insert t.name type } := by
  rw [addType, if_neg ht]
  cases draft.types.get? t.name with
  | some earlier => exact ⟨nofun, nofun⟩
  | none =>
    simp only [true_and]
    rw [bind_eq_ok]
    refine exists_congr fun type => and_congr_right fun _ => ?_
    exact ⟨fun h => (Except.ok.inj h).symm, fun h => congrArg Except.ok h.symm⟩

/-! ### Taking in a block of root types -/

/-- The root types once a block has bound one kind. -/
def bound (location : Location) (types : ByKind (Option String))
    (roots : ByKind (Option RootBinding)) (kind : OperationKind) : ByKind (Option RootBinding) :=
  match types.get kind with
  | none => roots
  | some type => roots.set (some ⟨type, location⟩) kind

theorem bindRoot_eq_ok_iff {location : Location} {types : ByKind (Option String)}
    {roots roots' : ByKind (Option RootBinding)} {kind : OperationKind} :
    bindRoot location types roots kind = .ok roots' ↔
      (types.get kind = none ∨ roots.get kind = none) ∧
        roots' = bound location types roots kind := by
  rw [bindRoot, bound]
  cases types.get kind with
  | none => simp [eq_comm]
  | some type => cases roots.get kind <;> simp [eq_comm]

theorem get_bound (location : Location) (types : ByKind (Option String))
    (roots : ByKind (Option RootBinding)) (kind l : OperationKind) :
    (bound location types roots kind).get l =
      if kind = l then ((types.get kind).map (⟨·, location⟩)).or (roots.get kind)
      else roots.get l := by
  rw [bound]
  cases types.get kind with
  | none => by_cases h : kind = l <;> simp [h]
  | some type =>
    by_cases h : kind = l
    · subst h
      simp
    · simp [h, ByKind.get_set_of_ne]

/-- The root types once a block has bound all kinds that it names. -/
def boundAll (location : Location) (types : ByKind (Option String))
    (roots : ByKind (Option RootBinding)) : ByKind (Option RootBinding) :=
  bound location types (bound location types (bound location types roots .query) .mutation)
    .subscription

theorem get_boundAll (file? : Option String) (r : RootDeclaration)
    (roots : ByKind (Option RootBinding)) (kind : OperationKind) :
    (boundAll (.source file? r.position) r.types roots).get kind =
      (bindingIn? kind (file?, .roots r)).or (roots.get kind) := by
  rw [boundAll, bindingIn?]
  cases kind <;> simp [get_bound]

theorem addRoots_eq_ok_iff {file? : Option String} {draft draft' : SchemaDraft}
    {r : RootDeclaration} :
    draft.addRoots file? r = .ok draft' ↔
      (∀ kind, bindingIn? kind (file?, .roots r) = none ∨ draft.roots.get kind = none) ∧
        draft' = { draft with
          roots := boundAll (.source file? r.position) r.types draft.roots } := by
  simp only [addRoots, bind_eq_ok, bindRoot_eq_ok_iff, bindingIn?, Option.map_eq_none_iff]
  constructor
  · rintro ⟨_, ⟨hquery, rfl⟩, _, ⟨hmutation, rfl⟩, _, ⟨hsubscription, rfl⟩, h⟩
    cases h
    simp only [get_bound, reduceCtorEq, if_false] at hmutation hsubscription
    refine ⟨fun kind => ?_, rfl⟩
    cases kind with
    | query => exact hquery
    | mutation => exact hmutation
    | subscription => exact hsubscription
  · rintro ⟨h, rfl⟩
    refine ⟨_, ⟨h .query, rfl⟩, _, ⟨?_, rfl⟩, _, ⟨?_, rfl⟩, rfl⟩
    · simpa [get_bound] using h .mutation
    · simpa [get_bound] using h .subscription

/-! ### One declaration more -/

section
variable (ds : List (Option String × Declaration)) (x : Option String × Declaration)

theorem filterMap_snoc {α β : Type} (f : α → Option β) (xs : List α) (x : α) :
    (xs ++ [x]).filterMap f = xs.filterMap f ++ (f x).toList := by
  rw [List.filterMap_append]
  cases h : f x <;> simp [h]

theorem typesOf_snoc : typesOf (ds ++ [x]) = typesOf ds ++ (typeIn? x).toList :=
  filterMap_snoc typeIn? ds x

theorem extensionsOf_snoc : extensionsOf (ds ++ [x]) = extensionsOf ds ++ (extensionIn? x).toList :=
  filterMap_snoc extensionIn? ds x

theorem bindingsOf_snoc (kind : OperationKind) :
    bindingsOf (ds ++ [x]) kind = bindingsOf ds kind ++ (bindingIn? kind x).toList :=
  filterMap_snoc (bindingIn? kind) ds x

theorem typeNamesOf_snoc :
    typeNamesOf (ds ++ [x]) = typeNamesOf ds ++ (typeIn? x).toList.map fun y => y.2.name := by
  rw [typeNamesOf, typesOf_snoc, List.map_append]
  rfl

theorem forall_mem_typesOf_snoc {P : Option String × TypeDeclaration → Prop} :
    (∀ y ∈ typesOf (ds ++ [x]), P y) ↔ (∀ y ∈ typesOf ds, P y) ∧ ∀ y ∈ typeIn? x, P y := by
  simp [typesOf_snoc, or_imp, forall_and]

theorem nodup_typeNamesOf_snoc_iff :
    (typeNamesOf (ds ++ [x])).Nodup ↔
      (typeNamesOf ds).Nodup ∧ ∀ y ∈ typeIn? x, y.2.name ∉ typeNamesOf ds := by
  rw [typeNamesOf_snoc]
  cases typeIn? x with
  | none => simp
  | some y =>
    have hlast : (∀ n ∈ typeNamesOf ds, n ≠ y.2.name) ↔ y.2.name ∉ typeNamesOf ds :=
      ⟨fun h hy => h _ hy rfl, fun h n hn hy => h (hy ▸ hn)⟩
    simp [List.nodup_append, ← hlast]

theorem length_bindingsOf_snoc_iff (kind : OperationKind) :
    (bindingsOf (ds ++ [x]) kind).length ≤ 1 ↔
      (bindingsOf ds kind).length ≤ 1 ∧ (bindingIn? kind x = none ∨ bindingsOf ds kind = []) := by
  rw [bindingsOf_snoc]
  cases bindingIn? kind x with
  | none => simp
  | some b =>
    simp only [Option.toList_some, List.length_append, List.length_singleton, reduceCtorEq,
      false_or, ← List.length_eq_zero_iff]
    omega

/-- What a declaration must be like in order not to clash with those before it. -/
theorem consistent_snoc_iff :
    Consistent (ds ++ [x]) ↔ Consistent ds ∧
      (∀ y ∈ typeIn? x, (¬ BuiltInScalar.isName y.2.name = true ∧ y.2.name ∉ typeNamesOf ds) ∧
        y.2.fieldNames.Nodup) ∧
      ∀ kind, bindingIn? kind x = none ∨ bindingsOf ds kind = [] := by
  constructor
  · rintro ⟨htypes, hbuiltIns, hfields, hbindings⟩
    rw [nodup_typeNamesOf_snoc_iff] at htypes
    rw [forall_mem_typesOf_snoc] at hbuiltIns hfields
    simp only [length_bindingsOf_snoc_iff] at hbindings
    refine ⟨⟨htypes.1, hbuiltIns.1, hfields.1, fun kind => (hbindings kind).1⟩, fun y hy => ?_,
      fun kind => (hbindings kind).2⟩
    exact ⟨⟨hbuiltIns.2 y hy, htypes.2 y hy⟩, hfields.2 y hy⟩
  · rintro ⟨hc, hx, hbindings⟩
    refine ⟨?_, ?_, ?_, fun kind => ?_⟩
    · rw [nodup_typeNamesOf_snoc_iff]
      exact ⟨hc.types, fun y hy => (hx y hy).1.2⟩
    · rw [forall_mem_typesOf_snoc]
      exact ⟨hc.builtIns, fun y hy => (hx y hy).1.1⟩
    · rw [forall_mem_typesOf_snoc]
      exact ⟨hc.fields, fun y hy => (hx y hy).2⟩
    · rw [length_bindingsOf_snoc_iff]
      exact ⟨hc.roots kind, hbindings kind⟩

end

theorem mem_builtIns (s : BuiltInScalar) : s ∈ BuiltInScalar.all := by
  cases s <;> simp [BuiltInScalar.all]

theorem isName_iff {n : String} :
    BuiltInScalar.isName n = true ↔ ∃ s : BuiltInScalar, s.name = n := by
  rw [BuiltInScalar.isName, List.any_eq_true]
  constructor
  · rintro ⟨s, -, hs⟩
    exact ⟨s, of_decide_eq_true hs⟩
  · rintro ⟨s, hs⟩
    exact ⟨s, mem_builtIns s, decide_eq_true hs⟩

namespace Describes

variable {ds : List (Option String × Declaration)} {draft draft' : SchemaDraft}
  {x : Option String × Declaration}

theorem start : Describes [] .empty where
  types := by
    intro n t
    have hentries : builtIns.entries = BuiltInScalar.all.map fun s => (s.name, .builtIn s) := by rfl
    have hget : builtIns.get? n = some t ↔ (n, t) ∈ builtIns.entries := NameMap.get?_eq_some_iff
    rw [hentries, List.mem_map] at hget
    refine hget.trans ⟨?_, ?_⟩
    · rintro ⟨s, -, hs⟩
      cases hs
      exact .inl ⟨s, rfl, rfl⟩
    · rintro (⟨s, rfl, rfl⟩ | ⟨x, hx, -⟩)
      · exact ⟨s, mem_builtIns s, rfl⟩
      · cases hx
  roots := by intro kind; cases kind <;> rfl
  extensions := rfl

/-- The draft holds every type that is declared. -/
theorem exists_type (h : Describes ds draft) (hc : Consistent ds)
    {t : Option String × TypeDeclaration} (ht : t ∈ typesOf ds) :
    ∃ type, typeOf t.1 t.2 = .ok type ∧ draft.types.get? t.2.name = some type := by
  obtain ⟨type, htype⟩ := exists_typeOf_iff.mpr (hc.fields t ht)
  exact ⟨type, htype, (h.types _ _).mpr (.inr ⟨t, ht, rfl, htype⟩)⟩

/-- A name is free unless a built-in scalar or a declared type has it. -/
theorem get?_eq_none_iff (h : Describes ds draft) (hc : Consistent ds) {n : String} :
    draft.types.get? n = none ↔ ¬ BuiltInScalar.isName n = true ∧ n ∉ typeNamesOf ds := by
  rw [Option.eq_none_iff_forall_ne_some, isName_iff, typeNamesOf, List.mem_map]
  constructor
  · intro hnone
    refine ⟨?_, ?_⟩
    · rintro ⟨s, hs⟩
      exact hnone _ ((h.types n _).mpr (.inl ⟨s, hs, rfl⟩))
    · rintro ⟨x, hx, rfl⟩
      obtain ⟨type, -, hget⟩ := h.exists_type hc hx
      exact hnone type hget
  · rintro ⟨hbuiltIn, hdeclared⟩ type htype
    rcases (h.types n type).mp htype with ⟨s, hs, -⟩ | ⟨x, hx, hn, -⟩
    · exact hbuiltIn ⟨s, hs⟩
    · exact hdeclared ⟨x, hx, hn⟩

theorem roots_eq_none_iff (h : Describes ds draft) (kind : OperationKind) :
    draft.roots.get kind = none ↔ bindingsOf ds kind = [] := by
  rw [← h.roots kind]
  cases draft.roots.get kind <;> simp

/-- A declaration that declares neither a type nor a root type changes neither. -/
theorem of_passed (h : Describes ds draft) (htype : typeIn? x = none)
    (hbinding : ∀ kind, bindingIn? kind x = none) :
    Describes (ds ++ [x])
      { draft with extensions := draft.extensions ++ (extensionIn? x).toList } where
  types := by simpa [typesOf_snoc, htype] using h.types
  roots := by simpa [bindingsOf_snoc, hbinding] using h.roots
  extensions := by rw [extensionsOf_snoc, h.extensions]

theorem addType {file? : Option String} {t : TypeDeclaration} (h : Describes ds draft)
    (ht : ¬ redeclaresBuiltIn t = true) (hadd : draft.addType file? t = .ok draft') :
    Describes (ds ++ [(file?, .type t)]) draft' := by
  obtain ⟨hfree, type, htype, rfl⟩ := (addType_eq_ok_iff ht).mp hadd
  have htypeIn : typeIn? (file?, .type t) = some (file?, t) := if_neg ht
  refine ⟨fun n u => ?_, fun kind => ?_, ?_⟩
  · have hget : (draft.types.insert t.name type).get? n =
        if t.name = n then some type else draft.types.get? n := NameMap.get?_insert ..
    simp only [typesOf_snoc, htypeIn, Option.toList_some, List.mem_append, List.mem_singleton,
      or_and_right, exists_or, exists_eq_left, ← or_assoc]
    rw [hget, ← h.types n u]
    by_cases hn : t.name = n
    · subst hn
      simp [hfree, htype]
    · simp [hn]
  · simpa [bindingsOf_snoc, bindingIn?] using h.roots kind
  · simpa [extensionsOf_snoc, extensionIn?] using h.extensions

theorem addRoots {file? : Option String} {r : RootDeclaration} (h : Describes ds draft)
    (hadd : draft.addRoots file? r = .ok draft') :
    Describes (ds ++ [(file?, .roots r)]) draft' := by
  obtain ⟨hfree, rfl⟩ := addRoots_eq_ok_iff.mp hadd
  refine ⟨?_, fun kind => ?_, ?_⟩
  · simpa [typesOf_snoc, typeIn?] using h.types
  · rw [bindingsOf_snoc, ← h.roots kind, get_boundAll]
    -- One of the two is missing, so there is no question of which comes first.
    rcases hfree kind with hnone | hnone <;> simp [hnone]
  · simpa [extensionsOf_snoc, extensionIn?] using h.extensions

/-- What a draft holds after one declaration more. -/
theorem declare (h : Describes ds draft) (hx : draft.declare x.1 x.2 = .ok draft') :
    Describes (ds ++ [x]) draft' := by
  obtain ⟨file?, d⟩ := x
  cases d with
  | roots r => exact h.addRoots hx
  | type t =>
    by_cases ht : redeclaresBuiltIn t = true
    · rw [SchemaDraft.declare, SchemaDraft.addType, if_pos ht] at hx
      cases hx
      simpa [extensionIn?] using h.of_passed (x := (file?, .type t)) (if_pos ht) fun _ => rfl
    · exact h.addType ht hx
  | extension t =>
    cases hx
    exact h.of_passed (x := (file?, .extension t)) rfl fun _ => rfl
  | directive n =>
    cases hx
    simpa [extensionIn?] using h.of_passed (x := (file?, .directive n)) rfl fun _ => rfl

/-- A declaration can be taken in exactly if it does not clash with those before. -/
theorem exists_declare_iff (h : Describes ds draft) (hc : Consistent ds) :
    (∃ draft', draft.declare x.1 x.2 = .ok draft') ↔ Consistent (ds ++ [x]) := by
  rw [consistent_snoc_iff]
  obtain ⟨file?, d⟩ := x
  cases d with
  | roots r =>
    have hadd : (∃ draft', draft.addRoots file? r = .ok draft') ↔
        ∀ kind, bindingIn? kind (file?, .roots r) = none ∨ bindingsOf ds kind = [] := by
      simp only [addRoots_eq_ok_iff, h.roots_eq_none_iff, exists_and_left, exists_eq, and_true]
    exact hadd.trans ⟨fun hroots => ⟨hc, nofun, hroots⟩, fun hroots => hroots.2.2⟩
  | type t =>
    by_cases ht : redeclaresBuiltIn t = true
    · have htype : typeIn? (file?, .type t) = none := if_pos ht
      have hadd : draft.addType file? t = .ok draft := if_pos ht
      rw [htype]
      exact ⟨fun _ => ⟨hc, nofun, fun _ => .inl rfl⟩, fun _ => ⟨draft, hadd⟩⟩
    · have htype : typeIn? (file?, .type t) = some (file?, t) := if_neg ht
      have hadd : (∃ draft', draft.addType file? t = .ok draft') ↔
          draft.types.get? t.name = none ∧ t.fieldNames.Nodup := by
        rw [← @exists_typeOf_iff file? t]
        simp only [addType_eq_ok_iff ht]
        exact ⟨fun ⟨_, hfree, type, htype, _⟩ => ⟨hfree, type, htype⟩,
          fun ⟨hfree, type, htype⟩ => ⟨_, hfree, type, htype, rfl⟩⟩
      rw [h.get?_eq_none_iff hc] at hadd
      rw [htype]
      refine hadd.trans ⟨fun hfree => ⟨hc, ?_, fun _ => .inl rfl⟩, fun hfree => hfree.2.1 _ rfl⟩
      rintro y ⟨rfl⟩
      exact hfree
  | extension t => exact ⟨fun _ => ⟨hc, nofun, fun _ => .inl rfl⟩, fun _ => ⟨_, rfl⟩⟩
  | directive n => exact ⟨fun _ => ⟨hc, nofun, fun _ => .inl rfl⟩, fun _ => ⟨_, rfl⟩⟩

end Describes

/-! ### All declarations -/

theorem declareFrom_append (draft : SchemaDraft) (ds ds' : List (Option String × Declaration)) :
    draft.declareFrom (ds ++ ds') = draft.declareFrom ds >>= fun draft => draft.declareFrom ds' :=
  List.foldlM_append

theorem declareFrom_snoc (draft : SchemaDraft) (ds : List (Option String × Declaration))
    (x : Option String × Declaration) :
    draft.declareFrom (ds ++ [x]) =
      draft.declareFrom ds >>= fun draft => draft.declare x.1 x.2 := by
  rw [declareFrom_append]
  simp only [declareFrom, List.foldlM_cons, List.foldlM_nil, bind_pure]

/-- Declarations that were taken in do not clash, and the draft holds what they declare. -/
theorem describes_of_declareFrom {ds : List (Option String × Declaration)} {draft : SchemaDraft}
    (h : empty.declareFrom ds = .ok draft) : Consistent ds ∧ Describes ds draft := by
  induction ds using List.reverseRecOn generalizing draft with
  | nil =>
    cases h
    exact ⟨⟨List.nodup_nil, nofun, nofun, fun _ => Nat.zero_le 1⟩, .start⟩
  | append_singleton ds x ih =>
    rw [declareFrom_snoc, bind_eq_ok] at h
    obtain ⟨before, hbefore, hx⟩ := h
    obtain ⟨hc, hdescribes⟩ := ih hbefore
    exact ⟨(hdescribes.exists_declare_iff hc).mp ⟨draft, hx⟩, hdescribes.declare hx⟩

/-- Declarations can be taken in exactly if they do not clash. -/
theorem exists_declareFrom_iff {ds : List (Option String × Declaration)} :
    (∃ draft, empty.declareFrom ds = .ok draft) ↔ Consistent ds := by
  refine ⟨fun ⟨draft, h⟩ => (describes_of_declareFrom h).1, fun hc => ?_⟩
  induction ds using List.reverseRecOn with
  | nil => exact ⟨empty, rfl⟩
  | append_singleton ds x ih =>
    have hbefore : Consistent ds := ((consistent_snoc_iff ds x).mp hc).1
    obtain ⟨draft, hdraft⟩ := ih hbefore
    have hdescribes := (describes_of_declareFrom hdraft).2
    obtain ⟨draft', hx⟩ := (hdescribes.exists_declare_iff hbefore).mpr hc
    exact ⟨draft', by rw [declareFrom_snoc, hdraft, Logged.ok_bind, hx]⟩

end SchemaDraft

end QueryTariff
