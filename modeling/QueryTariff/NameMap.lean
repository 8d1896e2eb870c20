/-!
Finite maps from names, in the order in which the names were first put in.

`get?_insert` and `get?_erase` say what each operation does to look-up.
-/

namespace QueryTariff

/-- Names with their values; no name occurs twice. -/
structure NameMap (α : Type) where
  entries : List (String × α)
  nodup : (entries.map Prod.fst).Nodup

namespace NameMap

variable {α β : Type}

def keys (m : NameMap α) : List String := m.entries.map Prod.fst

def size (m : NameMap α) : Nat := m.entries.length

def isEmpty (m : NameMap α) : Bool := m.entries.isEmpty

/-- The value beside the first entry of that name. -/
def find? (name : String) : List (String × α) → Option α
  | [] => none
  | (n, a) :: r => if n = name then some a else find? name r

def get? (m : NameMap α) (name : String) : Option α := find? name m.entries

def contains (m : NameMap α) (name : String) : Bool := (m.get? name).isSome

def empty : NameMap α := ⟨[], List.nodup_nil⟩

/-- Puts a value in the place of its name, a new name at the end. -/
def put (name : String) (a : α) : List (String × α) → List (String × α)
  | [] => [(name, a)]
  | (n, b) :: r => if n = name then (name, a) :: r else (n, b) :: put name a r

theorem keys_put (name : String) (a : α) (l : List (String × α)) :
    (put name a l).map Prod.fst =
      if name ∈ l.map Prod.fst then l.map Prod.fst else l.map Prod.fst ++ [name] := by
  induction l with
  | nil => rfl
  | cons e r ih =>
    rcases e with ⟨n, b⟩
    by_cases h : n = name
    · simp [put, h]
    · have h' : name ≠ n := fun e => h e.symm
      by_cases hr : name ∈ r.map Prod.fst <;> simp_all [put]

def insert (m : NameMap α) (name : String) (a : α) : NameMap α where
  entries := put name a m.entries
  nodup := by
    rw [keys_put]
    split
    · exact m.nodup
    · rename_i h
      rw [List.nodup_append]
      refine ⟨m.nodup, by simp, ?_⟩
      intro x hx y hy hxy
      rw [List.mem_singleton] at hy
      subst hy hxy
      exact h hx

def erase (m : NameMap α) (name : String) : NameMap α where
  entries := m.entries.filter (·.1 ≠ name)
  nodup := m.nodup.sublist (List.filter_sublist.map Prod.fst)

/-- Puts in the pairs one after the other, so the last value of a name stays. -/
def ofList (l : List (String × α)) : NameMap α := l.foldl (fun m e => m.insert e.1 e.2) empty

/-- The entries in the order of their names. -/
def sorted (m : NameMap α) : List (String × α) := m.entries.mergeSort fun a b => a.1 ≤ b.1

/-- Whether two maps have the same names with the same values, in whatever order. -/
def agrees [DecidableEq α] (m n : NameMap α) : Bool := m.sorted = n.sorted

@[simp] theorem get?_empty (name : String) : (empty : NameMap α).get? name = none := rfl

theorem find?_put (name x : String) (a : α) (l : List (String × α)) :
    find? x (put name a l) = if name = x then some a else find? x l := by
  induction l with
  | nil => rfl
  | cons e r ih =>
    rcases e with ⟨n, b⟩
    by_cases h : n = name
    · subst h
      by_cases hx : n = x <;> simp [put, find?, hx]
    · by_cases hx : n = x
      · subst hx
        have h' : name ≠ n := fun e => h e.symm
        simp [put, find?, h, h']
      · simp [put, find?, h, hx, ih]

@[simp] theorem get?_insert (m : NameMap α) (name x : String) (a : α) :
    (m.insert name a).get? x = if name = x then some a else m.get? x :=
  find?_put name x a m.entries

theorem find?_filter_ne (name x : String) (l : List (String × α)) :
    find? x (l.filter (·.1 ≠ name)) = if name = x then none else find? x l := by
  induction l with
  | nil => simp [find?]
  | cons e r ih =>
    rcases e with ⟨n, b⟩
    by_cases h : n = name
    · subst h
      by_cases hx : n = x <;> simp_all [find?]
    · by_cases hx : n = x
      · subst hx
        have h' : name ≠ n := fun e => h e.symm
        simp [find?, h, h']
      · simp_all [find?]

@[simp] theorem get?_erase (m : NameMap α) (name x : String) :
    (m.erase name).get? x = if name = x then none else m.get? x :=
  find?_filter_ne name x m.entries

theorem find?_isSome_iff (x : String) (l : List (String × α)) :
    (find? x l).isSome = true ↔ x ∈ l.map Prod.fst := by
  induction l with
  | nil => simp [find?]
  | cons e r ih =>
    rcases e with ⟨n, b⟩
    by_cases h : n = x
    · simp [find?, h]
    · have h' : x ≠ n := fun e => h e.symm
      simp_all [find?]

/-- A name can be looked up exactly if it is one of the keys. -/
theorem isSome_get?_iff (m : NameMap α) (x : String) : (m.get? x).isSome = true ↔ x ∈ m.keys :=
  find?_isSome_iff x m.entries

theorem mem_of_find? {x : String} {a : α} {l : List (String × α)} (h : find? x l = some a) :
    (x, a) ∈ l := by
  induction l with
  | nil => simp [find?] at h
  | cons e r ih =>
    rcases e with ⟨n, b⟩
    by_cases hn : n = x
    · simp [find?, hn] at h
      simp [hn, h]
    · simp [find?, hn] at h
      simp [ih h]

theorem mem_entries_of_get? {m : NameMap α} {x : String} {a : α} (h : m.get? x = some a) :
    (x, a) ∈ m.entries := mem_of_find? h

end NameMap

end QueryTariff
