import QueryTariff.Schema.Draft
import Mathlib.Data.List.Basic

/-!
The fields of a type as they are declared. Fields go to a type one after the other; they all get
there exactly if no name occurs twice, and then they stand in the order of their declaration
(`addFields_eq_ok_iff`).
-/

namespace QueryTariff

/-- A sequence succeeds exactly if both of its parts do. -/
theorem bind_eq_ok {ε α β : Type} {x : Except ε α} {f : α → Except ε β} {b : β} :
    (x >>= f) = .ok b ↔ ∃ a, x = .ok a ∧ f a = .ok b := by
  cases x <;> simp

theorem exists_bind_ok_iff {ε α β : Type} {x : Except ε α} {f : α → β} :
    (∃ b, (x >>= fun a => .ok (f a)) = .ok b) ↔ ∃ a, x = .ok a := by
  cases x <;> simp

namespace NameMap

variable {α : Type}

theorem ext {m m' : NameMap α} (h : m.entries = m'.entries) : m = m' := by
  cases m
  cases m'
  cases h
  rfl

theorem put_of_not_mem {name : String} (a : α) {l : List (String × α)}
    (h : name ∉ l.map Prod.fst) : put name a l = l ++ [(name, a)] := by
  induction l with
  | nil => rfl
  | cons e r ih =>
    obtain ⟨n, b⟩ := e
    have hn : n ≠ name := fun hn => h (by simp [hn])
    have hr : name ∉ r.map Prod.fst := fun hr => h (List.mem_cons_of_mem _ hr)
    simp [put, hn, ih hr]

theorem get?_eq_none_iff {m : NameMap α} {x : String} : m.get? x = none ↔ x ∉ m.keys := by
  rw [← isSome_get?_iff, Option.not_isSome_iff_eq_none]

theorem entries_insert {m : NameMap α} {x : String} (a : α) (h : m.get? x = none) :
    (m.insert x a).entries = m.entries ++ [(x, a)] :=
  put_of_not_mem a (get?_eq_none_iff.mp h)

theorem find?_eq_some_of_mem {x : String} {a : α} {l : List (String × α)}
    (hl : (l.map Prod.fst).Nodup) (h : (x, a) ∈ l) : find? x l = some a := by
  induction l with
  | nil => simp at h
  | cons e r ih =>
    obtain ⟨n, b⟩ := e
    obtain ⟨hn, hr⟩ := List.nodup_cons.mp hl
    rcases List.mem_cons.mp h with he | he
    · cases he
      simp [find?]
    · have hne : n ≠ x := fun hne => hn (List.mem_map.mpr ⟨(x, a), he, hne.symm⟩)
      simp [find?, hne, ih hr he]

/-- No name occurs twice, so looking a name up finds all that is there for it. -/
theorem get?_eq_some_iff {m : NameMap α} {x : String} {a : α} :
    m.get? x = some a ↔ (x, a) ∈ m.entries :=
  ⟨mem_entries_of_get?, find?_eq_some_of_mem m.nodup⟩

end NameMap

namespace SchemaDraft

/-- The definition that a declared field stands for. -/
def fieldOf (file? : Option String) (f : FieldDeclaration) : FieldDefinition :=
  ⟨f.name, .source file? f.position, .ofTypeRef (.source file? f.position) f.type⟩

/-- Declared fields with their names, in their order. -/
def fieldsOf (file? : Option String) (fs : List FieldDeclaration) :
    List (String × FieldDefinition) :=
  fs.map fun f => (f.name, fieldOf file? f)

theorem names_fieldsOf (file? : Option String) (fs : List FieldDeclaration) :
    (fieldsOf file? fs).map Prod.fst = fs.map FieldDeclaration.name := by
  rw [fieldsOf, List.map_map]
  rfl

/-- Fields can be added exactly if no name is there twice, and then they follow those that were
there. -/
theorem addFields_eq_ok_iff {file? : Option String} {type : String}
    {m m' : NameMap FieldDefinition} {fs : List FieldDeclaration} :
    addFields file? type m fs = .ok m' ↔
      (m.keys ++ fs.map FieldDeclaration.name).Nodup ∧
        m'.entries = m.entries ++ fieldsOf file? fs := by
  induction fs generalizing m with
  | nil =>
    have hnodup : m.keys.Nodup := m.nodup
    simp only [addFields, Except.ok.injEq, List.map_nil, List.append_nil, hnodup, true_and,
      fieldsOf]
    exact ⟨fun h => by rw [h], fun h => NameMap.ext h.symm⟩
  | cons f fs ih =>
    rw [addFields]
    cases hget : m.get? f.name with
    | some earlier =>
      have hmem : f.name ∈ m.keys := by
        rw [← NameMap.isSome_get?_iff, hget]
        rfl
      have hclash : ¬ (m.keys ++ (f :: fs).map FieldDeclaration.name).Nodup := by
        intro hnodup
        exact (List.nodup_append.mp hnodup).2.2 _ hmem f.name (by simp) rfl
      exact ⟨nofun, fun h => absurd h.1 hclash⟩
    | none =>
      have hentries := NameMap.entries_insert (fieldOf file? f) hget
      have hkeys : (m.insert f.name (fieldOf file? f)).keys = m.keys ++ [f.name] := by
        rw [NameMap.keys, hentries, List.map_append]
        rfl
      have hstep := @ih (m.insert f.name (fieldOf file? f))
      rw [hkeys, hentries, List.append_assoc, List.append_assoc] at hstep
      exact hstep

theorem exists_addFields_iff {file? : Option String} {type : String} {m : NameMap FieldDefinition}
    {fs : List FieldDeclaration} :
    (∃ m', addFields file? type m fs = .ok m') ↔
      (m.keys ++ fs.map FieldDeclaration.name).Nodup := by
  constructor
  · rintro ⟨m', h⟩
    exact (addFields_eq_ok_iff.mp h).1
  · intro hnodup
    have hentries : ((m.entries ++ fieldsOf file? fs).map Prod.fst).Nodup := by
      rw [List.map_append, names_fieldsOf]
      exact hnodup
    exact ⟨⟨_, hentries⟩, addFields_eq_ok_iff.mpr ⟨hnodup, rfl⟩⟩

end SchemaDraft

end QueryTariff
