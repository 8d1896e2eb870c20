import QueryTariff.Proofs.Schema.Declared

/-!
Types with their extensions. Every type is extended on its own: extensions can be applied exactly if
each names a type of its kind and no field of a type is there twice (`exists_applyExtensions_iff`),
and then each part of a type is its own followed by those of its extensions, in the order in which
they came (`extendedBy_of_applyExtensions`); only the interfaces of an interface stay its own.
-/

namespace QueryTariff

namespace NamedType

/-- The fields with their names, in their order. -/
def fields : NamedType → List (String × FieldDefinition)
  | .object t => t.fields.entries
  | .interface t => t.fields.entries
  | _ => []

def interfaces : NamedType → List String
  | .object t => t.interfaces
  | .interface t => t.interfaces
  | _ => []

def members : NamedType → List String
  | .union _ _ ms => ms
  | _ => []

def values : NamedType → List String
  | .enum _ _ vs => vs
  | _ => []

def fieldNames (t : NamedType) : List String := t.fields.map Prod.fst

theorem nodup_fieldNames (t : NamedType) : t.fieldNames.Nodup := by
  cases t with
  | object t => exact t.fields.nodup
  | interface t => exact t.fields.nodup
  | _ => exact List.nodup_nil

theorem field?_eq_some_iff {t : NamedType} {n : String} {f : FieldDefinition} :
    t.field? n = some f ↔ (n, f) ∈ t.fields := by
  cases t with
  | object t => exact NameMap.get?_eq_some_iff
  | interface t => exact NameMap.get?_eq_some_iff
  | _ => exact ⟨nofun, nofun⟩

end NamedType

namespace SchemaDraft

variable {file? : Option String} {t : TypeDeclaration} {existing type : NamedType}

/-- The fields that extensions add, in their order. -/
def addedFields (xs : List (Option String × TypeDeclaration)) : List (String × FieldDefinition) :=
  xs.flatMap fun x => fieldsOf x.1 x.2.body.fields

theorem addedFields_append (xs ys : List (Option String × TypeDeclaration)) :
    addedFields (xs ++ ys) = addedFields xs ++ addedFields ys :=
  List.flatMap_append

/-- The names that extensions add to one part of a type, in their order. -/
def addedNames (part : TypeBody → List String) (xs : List (Option String × TypeDeclaration)) :
    List String :=
  xs.flatMap fun x => part x.2.body

theorem addedNames_append (part : TypeBody → List String)
    (xs ys : List (Option String × TypeDeclaration)) :
    addedNames part (xs ++ ys) = addedNames part xs ++ addedNames part ys :=
  List.flatMap_append

/-- The interfaces that a type of the kind gets from extensions: only objects get any. -/
def addedInterfaces (kind : TypeKind) (xs : List (Option String × TypeDeclaration)) : List String :=
  if kind = .object then addedNames TypeBody.interfaces xs else []

theorem addedInterfaces_append (kind : TypeKind) (xs ys : List (Option String × TypeDeclaration)) :
    addedInterfaces kind (xs ++ ys) = addedInterfaces kind xs ++ addedInterfaces kind ys := by
  by_cases hkind : kind = .object
  · simp only [addedInterfaces, if_pos hkind, addedNames_append]
  · simp only [addedInterfaces, if_neg hkind, List.append_nil]

/-- The extensions of one type. -/
def extensionsNamed (n : String) (xs : List (Option String × TypeDeclaration)) :
    List (Option String × TypeDeclaration) :=
  xs.filter fun x => x.2.name = n

/-- The second type is the first one with what extensions add. -/
structure ExtendedBy (xs : List (Option String × TypeDeclaration)) (type type' : NamedType) :
    Prop where
  name : type'.name = type.name
  kind : type'.kind = type.kind
  location : type'.location = type.location
  fields : type'.fields = type.fields ++ addedFields xs
  interfaces : type'.interfaces = type.interfaces ++ addedInterfaces type.kind xs
  members : type'.members = type.members ++ addedNames TypeBody.members xs
  values : type'.values = type.values ++ addedNames TypeBody.values xs
  /-- To scalars and inputs extensions add nothing. -/
  unchanged : type.kind = .scalar ∨ type.kind = .input → type' = type

theorem ExtendedBy.refl (type : NamedType) : ExtendedBy [] type type where
  name := rfl
  kind := rfl
  location := rfl
  fields := (List.append_nil _).symm
  interfaces := by
    have hnone : addedInterfaces type.kind [] = [] := ite_self []
    rw [hnone, List.append_nil]
  members := (List.append_nil _).symm
  values := (List.append_nil _).symm
  unchanged := fun _ => rfl

theorem ExtendedBy.trans {xs ys : List (Option String × TypeDeclaration)} {a b c : NamedType}
    (h₁ : ExtendedBy xs a b) (h₂ : ExtendedBy ys b c) : ExtendedBy (xs ++ ys) a c where
  name := h₂.name.trans h₁.name
  kind := h₂.kind.trans h₁.kind
  location := h₂.location.trans h₁.location
  fields := by
    rw [h₂.fields, h₁.fields, addedFields_append, List.append_assoc]
  interfaces := by
    rw [h₂.interfaces, h₁.interfaces, h₁.kind, addedInterfaces_append, List.append_assoc]
  members := by
    rw [h₂.members, h₁.members, addedNames_append, List.append_assoc]
  values := by
    rw [h₂.values, h₁.values, addedNames_append, List.append_assoc]
  unchanged := by
    intro hkind
    have hb : b = a := h₁.unchanged hkind
    exact (h₂.unchanged (hb ▸ hkind)).trans hb

/-- A type that is missing stays missing, and one that is there is extended. -/
def RelatedBy (xs : List (Option String × TypeDeclaration)) (t? t?' : Option NamedType) : Prop :=
  Option.Rel (ExtendedBy xs) t? t?'

theorem RelatedBy.refl (t? : Option NamedType) : RelatedBy [] t? t? := by
  cases t? with
  | none => exact .none
  | some t => exact .some (.refl t)

theorem RelatedBy.trans {xs ys : List (Option String × TypeDeclaration)}
    {a? b? c? : Option NamedType} (h₁ : RelatedBy xs a? b?) (h₂ : RelatedBy ys b? c?) :
    RelatedBy (xs ++ ys) a? c? := by
  cases h₁ with
  | none =>
    cases h₂
    exact .none
  | some h₁ =>
    cases h₂ with
    | some h₂ => exact .some (h₁.trans h₂)

theorem RelatedBy.exists_right {xs : List (Option String × TypeDeclaration)}
    {t? t?' : Option NamedType} {t : NamedType} (h : RelatedBy xs t? t?') (ht : t? = some t) :
    ∃ t', t?' = some t' ∧ ExtendedBy xs t t' := by
  subst ht
  cases h with
  | some h => exact ⟨_, rfl, h⟩

theorem RelatedBy.exists_left {xs : List (Option String × TypeDeclaration)}
    {t? t?' : Option NamedType} {t' : NamedType} (h : RelatedBy xs t? t?') (ht' : t?' = some t') :
    ∃ t, t? = some t ∧ ExtendedBy xs t t' := by
  subst ht'
  cases h with
  | some h => exact ⟨_, rfl, h⟩

theorem addedFields_singleton (file? : Option String) (t : TypeDeclaration) :
    addedFields [(file?, t)] = fieldsOf file? t.body.fields :=
  List.flatMap_singleton ..

theorem addedNames_singleton (part : TypeBody → List String) (file? : Option String)
    (t : TypeDeclaration) : addedNames part [(file?, t)] = part t.body :=
  List.flatMap_singleton ..

theorem extendedBy_of_extended (h : extended file? t existing = .ok type) :
    ExtendedBy [(file?, t)] existing type := by
  unfold extended at h
  split at h
  case h_1 o interfaces fs hbody =>
    obtain ⟨m, hm, hok⟩ := bind_eq_ok.mp h
    cases hok
    have hfields := (addFields_eq_ok_iff.mp hm).2
    refine ⟨rfl, rfl, rfl, ?_, ?_, ?_, ?_, nofun⟩
    · rw [addedFields_singleton, hbody]
      exact hfields
    all_goals simp only [addedInterfaces, addedNames_singleton, hbody]
    all_goals rfl
  case h_2 i interfaces fs hbody =>
    obtain ⟨m, hm, hok⟩ := bind_eq_ok.mp h
    cases hok
    have hfields := (addFields_eq_ok_iff.mp hm).2
    refine ⟨rfl, rfl, rfl, ?_, ?_, ?_, ?_, nofun⟩
    · rw [addedFields_singleton, hbody]
      exact hfields
    · exact (List.append_nil _).symm
    all_goals simp only [addedNames_singleton, hbody]
    all_goals rfl
  case h_8 => cases h
  all_goals
    rename_i hbody
    cases h
    refine ⟨rfl, rfl, rfl, ?_, ?_, ?_, ?_, ?_⟩
    all_goals simp [addedFields_singleton, addedInterfaces, addedNames_singleton, hbody,
      NamedType.kind, NamedType.fields, NamedType.interfaces, NamedType.members, NamedType.values,
      TypeBody.fields, TypeBody.members, TypeBody.values, fieldsOf]

/-- A type can be extended exactly if the extension is of its kind and brings no field twice. -/
theorem exists_extended_iff :
    (∃ type, extended file? t existing = .ok type) ↔
      existing.kind = t.body.kind ∧ (existing.fieldNames ++ t.fieldNames).Nodup := by
  have hfields (make : NameMap FieldDefinition → NamedType) (m : NameMap FieldDefinition)
      (fs : List FieldDeclaration) :
      (∃ type, (addFields file? t.name m fs >>= fun m => .ok (make m)) = .ok type) ↔
        (m.keys ++ fs.map FieldDeclaration.name).Nodup :=
    exists_bind_ok_iff.trans exists_addFields_iff
  rw [TypeDeclaration.fieldNames]
  unfold extended
  split
  case h_1 o interfaces fs hbody =>
    rw [hbody]
    exact (hfields _ o.fields fs).trans (iff_and_self.mpr fun _ => rfl)
  case h_2 i interfaces fs hbody =>
    rw [hbody]
    exact (hfields _ i.fields fs).trans (iff_and_self.mpr fun _ => rfl)
  case h_8 existing _ _ _ _ _ _ _ _ _ =>
    -- The cases before this one are all those in which the kinds agree.
    have hkind : existing.kind ≠ t.body.kind := by
      intro hkind
      cases existing <;> cases hbody : t.body <;> grind [NamedType.kind, TypeBody.kind]
    refine ⟨?_, fun h => absurd h.1 hkind⟩
    rintro ⟨type, h⟩
    cases h
  all_goals
    rename_i hbody
    rw [hbody]
    exact ⟨fun _ => ⟨rfl, List.nodup_nil⟩, fun _ => ⟨_, rfl⟩⟩

/-! ### One extension after the other -/

section
variable {types types' : NameMap NamedType} {x : Option String × TypeDeclaration}
  {xs : List (Option String × TypeDeclaration)}

theorem applyExtension_eq_ok_iff :
    applyExtension types x.1 x.2 = .ok types' ↔
      ∃ t type, types.get? x.2.name = some t ∧ extended x.1 x.2 t = .ok type ∧
        types' = types.insert x.2.name type := by
  rw [applyExtension]
  cases types.get? x.2.name with
  | none => exact ⟨nofun, nofun⟩
  | some t =>
    simp only [Option.some.injEq, exists_and_left, exists_eq_left']
    refine bind_eq_ok.trans (exists_congr fun type => and_congr_right fun _ => ?_)
    exact ⟨fun h => (Except.ok.inj h).symm, fun h => congrArg Except.ok h.symm⟩

theorem applyExtensions_cons_eq_ok_iff :
    applyExtensions types (x :: xs) = .ok types' ↔
      ∃ m, applyExtension types x.1 x.2 = .ok m ∧ applyExtensions m xs = .ok types' :=
  bind_eq_ok

theorem extensionsNamed_cons (n : String) :
    extensionsNamed n (x :: xs) = extensionsNamed n [x] ++ extensionsNamed n xs :=
  List.filter_append [x] xs

/-- One extension changes the type that it names and no other. -/
theorem extendedBy_of_applyExtension (h : applyExtension types x.1 x.2 = .ok types') (n : String) :
    RelatedBy (extensionsNamed n [x]) (types.get? n) (types'.get? n) := by
  obtain ⟨t, type, hget, hextended, rfl⟩ := applyExtension_eq_ok_iff.mp h
  rw [NameMap.get?_insert]
  by_cases hn : x.2.name = n
  · subst hn
    rw [if_pos rfl, hget]
    have hthis : extensionsNamed x.2.name [x] = [x] := by simp [extensionsNamed]
    rw [hthis]
    exact .some (extendedBy_of_extended hextended)
  · have hother : extensionsNamed n [x] = [] := by simp [extensionsNamed, hn]
    rw [if_neg hn, hother]
    exact .refl _

/-- After all extensions a type has what it had and what the extensions that name it add. -/
theorem extendedBy_of_applyExtensions (h : applyExtensions types xs = .ok types') (n : String) :
    RelatedBy (extensionsNamed n xs) (types.get? n) (types'.get? n) := by
  induction xs generalizing types with
  | nil =>
    cases h
    exact .refl _
  | cons x xs ih =>
    obtain ⟨m, hx, hxs⟩ := applyExtensions_cons_eq_ok_iff.mp h
    rw [extensionsNamed_cons]
    exact (extendedBy_of_applyExtension hx n).trans (ih hxs)

/-! ### Extensions that can be applied -/

/-- Each extension names a type of its kind, and no field of a type is there twice. -/
structure Extensible (types : NameMap NamedType) (xs : List (Option String × TypeDeclaration)) :
    Prop where
  kinds : ∀ x ∈ xs, ∃ t, types.get? x.2.name = some t ∧ t.kind = x.2.body.kind
  fields : ∀ n t, types.get? n = some t →
    ((t.fields ++ addedFields (extensionsNamed n xs)).map Prod.fst).Nodup

theorem names_addedFields_singleton (x : Option String × TypeDeclaration) :
    (addedFields [x]).map Prod.fst = x.2.fieldNames := by
  rw [addedFields_singleton, names_fieldsOf, TypeDeclaration.fieldNames]

theorem Extensible.exists_applyExtension (h : Extensible types (x :: xs)) :
    ∃ m, applyExtension types x.1 x.2 = .ok m := by
  obtain ⟨t, hget, hkind⟩ := h.kinds x List.mem_cons_self
  have hnodup : (t.fieldNames ++ x.2.fieldNames).Nodup := by
    have hfields := h.fields _ t hget
    have hthis : extensionsNamed x.2.name (x :: xs) = [x] ++ extensionsNamed x.2.name xs := by
      simp [extensionsNamed]
    rw [hthis, addedFields_append, ← List.append_assoc, List.map_append, List.map_append,
      names_addedFields_singleton] at hfields
    exact (List.nodup_append.mp hfields).1
  obtain ⟨type, htype⟩ := (@exists_extended_iff x.1 x.2 t).mpr ⟨hkind, hnodup⟩
  exact ⟨_, applyExtension_eq_ok_iff.mpr ⟨t, type, hget, htype, rfl⟩⟩

/-- Whether extensions fit does not change when the first of them is applied. -/
theorem extensible_cons_iff (hx : applyExtension types x.1 x.2 = .ok types') :
    Extensible types (x :: xs) ↔ Extensible types' xs := by
  have hrel (n : String) := extendedBy_of_applyExtension hx n
  obtain ⟨t, type, hget, htype, -⟩ := applyExtension_eq_ok_iff.mp hx
  have hkind : t.kind = x.2.body.kind := (exists_extended_iff.mp ⟨type, htype⟩).1
  have hfields {n : String} {t t' : NamedType} (h : ExtendedBy (extensionsNamed n [x]) t t') :
      t.fields ++ addedFields (extensionsNamed n (x :: xs)) =
        t'.fields ++ addedFields (extensionsNamed n xs) := by
    rw [extensionsNamed_cons, addedFields_append, h.fields, List.append_assoc]
  constructor
  · intro h
    refine ⟨fun y hy => ?_, fun n t' ht' => ?_⟩
    · obtain ⟨t, ht, hkind⟩ := h.kinds y (List.mem_cons_of_mem x hy)
      obtain ⟨t', ht', hby⟩ := (hrel _).exists_right ht
      exact ⟨t', ht', hby.kind.trans hkind⟩
    · obtain ⟨t, ht, hby⟩ := (hrel n).exists_left ht'
      rw [← hfields hby]
      exact h.fields n t ht
  · intro h
    refine ⟨fun y hy => ?_, fun n t ht => ?_⟩
    · rcases List.mem_cons.mp hy with rfl | hy
      · exact ⟨t, hget, hkind⟩
      · obtain ⟨t', ht', hkind⟩ := h.kinds y hy
        obtain ⟨t, ht, hby⟩ := (hrel _).exists_left ht'
        exact ⟨t, ht, hby.kind.symm.trans hkind⟩
    · obtain ⟨t', ht', hby⟩ := (hrel n).exists_right ht
      rw [hfields hby]
      exact h.fields n t' ht'

/-- Extensions can be applied exactly if each one fits the type that it names. -/
theorem exists_applyExtensions_iff :
    (∃ types', applyExtensions types xs = .ok types') ↔ Extensible types xs := by
  induction xs generalizing types with
  | nil =>
    refine ⟨fun _ => ⟨nofun, fun n t _ => ?_⟩, fun _ => ⟨types, rfl⟩⟩
    show ((t.fields ++ []).map Prod.fst).Nodup
    rw [List.append_nil]
    exact t.nodup_fieldNames
  | cons x xs ih =>
    simp only [applyExtensions_cons_eq_ok_iff]
    constructor
    · rintro ⟨types', m, hx, hxs⟩
      exact (extensible_cons_iff hx).mpr (ih.mp ⟨types', hxs⟩)
    · intro h
      obtain ⟨m, hx⟩ := h.exists_applyExtension
      obtain ⟨types', hxs⟩ := ih.mpr ((extensible_cons_iff hx).mp h)
      exact ⟨types', m, hx, hxs⟩

end

end SchemaDraft

end QueryTariff
