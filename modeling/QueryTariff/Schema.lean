import QueryTariff.Schema.Annotation
import QueryTariff.Declaration
import QueryTariff.NameMap

/-!
Schemas: named types, and the object types that operations start from.
-/

namespace QueryTariff

inductive BuiltInScalar where
  | boolean
  | float
  | id
  | int
  | string
deriving DecidableEq, Repr

namespace BuiltInScalar

def name : BuiltInScalar → String
  | boolean => "Boolean"
  | float => "Float"
  | id => "ID"
  | int => "Int"
  | string => "String"

def all : List BuiltInScalar := [boolean, float, id, int, string]

def isName (n : String) : Bool := all.any (·.name = n)

end BuiltInScalar

structure FieldDefinition where
  name : String
  location : Location
  annotation : Annotation
deriving DecidableEq, Repr

/-- An object or interface type: its fields in the order of their definition. -/
structure FieldedType where
  name : String
  location : Location
  interfaces : List String
  fields : NameMap FieldDefinition

inductive NamedType where
  | builtIn (s : BuiltInScalar)
  | scalar (name : String) (location : Location)
  | object (t : FieldedType)
  | interface (t : FieldedType)
  | union (name : String) (location : Location) (members : List String)
  | enum (name : String) (location : Location) (values : List String)
  | input (name : String) (location : Location)

/-- The kinds that types are told apart by. -/
inductive TypeKind where
  | scalar
  | object
  | interface
  | union
  | enum
  | input
deriving DecidableEq, Repr

def TypeKind.text : TypeKind → String
  | scalar => "Scalar"
  | object => "Object"
  | interface => "Interface"
  | union => "Union"
  | enum => "Enum"
  | input => "InputObject"

namespace NamedType

def name : NamedType → String
  | builtIn s => s.name
  | scalar n _ => n
  | object t => t.name
  | interface t => t.name
  | union n _ _ => n
  | enum n _ _ => n
  | input n _ => n

def location : NamedType → Location
  | builtIn _ => .builtIn
  | scalar _ l => l
  | object t => t.location
  | interface t => t.location
  | union _ l _ => l
  | enum _ l _ => l
  | input _ l => l

def kind : NamedType → TypeKind
  | builtIn _ => .scalar
  | scalar .. => .scalar
  | object _ => .object
  | interface _ => .interface
  | union .. => .union
  | enum .. => .enum
  | input .. => .input

/-- The definition of a field; only objects and interfaces have any. -/
def field? (t : NamedType) (name : String) : Option FieldDefinition :=
  match t with
  | object t => t.fields.get? name
  | interface t => t.fields.get? name
  | _ => none

def isObject : NamedType → Bool
  | object _ => true
  | _ => false

/-- Whether values of the type can have selections. -/
def isComposite : NamedType → Bool
  | object _ => true
  | interface _ => true
  | union .. => true
  | _ => false

end NamedType

structure Schema where
  types : NameMap NamedType
  query : String
  mutation? : Option String
  subscription? : Option String

namespace Schema

def type? (S : Schema) (name : String) : Option NamedType := S.types.get? name

def rootName? (S : Schema) : OperationKind → Option String
  | .query => some S.query
  | .mutation => S.mutation?
  | .subscription => S.subscription?

/-- The type that operations of a kind start from. -/
def root? (S : Schema) (kind : OperationKind) : Option NamedType := S.rootName? kind >>= S.type?

/-- The root type of a kind if it is an object. -/
def rootObject? (S : Schema) (kind : OperationKind) : Option NamedType :=
  (S.root? kind).filter NamedType.isObject

/-- The type that a field gives once lists and exclamation marks are taken away. -/
def returnType? (S : Schema) (f : FieldDefinition) : Option NamedType :=
  S.type? f.annotation.innermost.name

end Schema

end QueryTariff
