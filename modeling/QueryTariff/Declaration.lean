import QueryTariff.Document

/-!
What a schema text declares: root types, types, extensions of types, and directives. Only what an
estimate can depend on is kept.
-/

namespace QueryTariff

/-- One thing for each kind of operation. -/
structure ByKind (α : Type) where
  query : α
  mutation : α
  subscription : α
deriving DecidableEq, Repr

namespace ByKind

variable {α : Type}

def get (r : ByKind α) : OperationKind → α
  | .query => r.query
  | .mutation => r.mutation
  | .subscription => r.subscription

def set (r : ByKind α) (a : α) : OperationKind → ByKind α
  | .query => { r with query := a }
  | .mutation => { r with mutation := a }
  | .subscription => { r with subscription := a }

def none : ByKind (Option α) := ⟨.none, .none, .none⟩

@[simp] theorem get_set_self (r : ByKind α) (a : α) (k : OperationKind) :
    (r.set a k).get k = a := by
  cases k <;> rfl

theorem get_set_of_ne (r : ByKind α) (a : α) {k l : OperationKind} (h : k ≠ l) :
    (r.set a k).get l = r.get l := by
  cases k <;> cases l <;> first | rfl | exact absurd rfl h

end ByKind

structure FieldDeclaration where
  position : Position
  name : String
  type : TypeRef
deriving DecidableEq, Repr

/-- The kind of a declared type, and what it consists of. -/
inductive TypeBody where
  | scalar
  | object (interfaces : List String) (fields : List FieldDeclaration)
  | interface (interfaces : List String) (fields : List FieldDeclaration)
  | union (members : List String)
  | enum (values : List String)
  | input
deriving DecidableEq, Repr

/-- A type or an extension of one. -/
structure TypeDeclaration where
  position : Position
  name : String
  body : TypeBody
deriving DecidableEq, Repr

/-- The root types that one block binds. -/
structure RootDeclaration where
  position : Position
  types : ByKind (Option String)
deriving DecidableEq, Repr

inductive Declaration where
  | roots (r : RootDeclaration)
  | type (t : TypeDeclaration)
  | extension (t : TypeDeclaration)
  | directive (name : String)
deriving DecidableEq, Repr

end QueryTariff
