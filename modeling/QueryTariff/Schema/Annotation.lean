import QueryTariff.Document

/-!
Declared types of fields, layer by layer. In a written type an exclamation mark wraps what stands
before it; in an annotation every layer says itself whether it may be null.
-/

namespace QueryTariff

/-- Where something was declared. -/
inductive Location where
  | builtIn
  | source (file? : Option String) (position : Position)
deriving DecidableEq, Repr

/-- The innermost layer of an annotation. -/
structure NamedAnnotation where
  location : Location
  nullable : Bool
  name : String
deriving DecidableEq, Repr

inductive Annotation where
  | named (a : NamedAnnotation)
  | list (location : Location) (nullable : Bool) (inner : Annotation)
deriving DecidableEq, Repr

namespace NamedAnnotation

def text (a : NamedAnnotation) : String := a.name ++ if a.nullable then "" else "!"

end NamedAnnotation

namespace Annotation

/-- The annotation of a written type under which the outermost layer is as nullable as given. -/
def ofTypeRefAs (location : Location) (nullable : Bool) : TypeRef → Annotation
  | .named n => named ⟨location, nullable, n⟩
  | .list t => list location nullable (ofTypeRefAs location true t)
  | .nonNull t => ofTypeRefAs location false t

def ofTypeRef (location : Location) (t : TypeRef) : Annotation := ofTypeRefAs location true t

def text : Annotation → String
  | named a => a.text
  | list _ nullable inner => "[" ++ inner.text ++ "]" ++ if nullable then "" else "!"

def nullable : Annotation → Bool
  | named a => a.nullable
  | list _ nullable _ => nullable

def location : Annotation → Location
  | named a => a.location
  | list location _ _ => location

def innermost : Annotation → NamedAnnotation
  | named a => a
  | list _ _ inner => inner.innermost

/-- The annotation and those inside it, from the outside in. -/
def layers : Annotation → List Annotation
  | named a => [named a]
  | list location nullable inner => list location nullable inner :: inner.layers

def isList : Annotation → Bool
  | named _ => false
  | list .. => true

end Annotation

end QueryTariff
