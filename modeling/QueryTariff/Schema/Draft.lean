import QueryTariff.Schema
import QueryTariff.Declaration.Parser
import QueryTariff.Files
import QueryTariff.Log

/-!
Schemas in the making. Declarations are taken in one by one, from any number of texts; extensions
wait until all types are there, so they may come before what they extend.
-/

namespace QueryTariff

/-- A root type as a block binds it. -/
structure RootBinding where
  type : String
  location : Location
deriving DecidableEq, Repr

/-- Why declarations make no schema. -/
inductive SchemaError where
  | duplicateField (type field : String) (first second : Location)
  | duplicateRoot (kind : OperationKind) (first second : RootBinding)
  | duplicateType (type : String) (first second : Location)
  | extensionOfUndefined (type : String) (location : Location)
  | extensionOfOtherKind (type : String) (existing : TypeKind) (location : Location)
  | noQueryRoot
  | unparsable (file? : Option String) (position : Position)
  | rootNotObject (kind : OperationKind) (existing : TypeKind) (type : String)
  | unreadable (fault : ReadFault)
  | undefinedRoot (kind : OperationKind) (binding : RootBinding)

def SchemaError.message : SchemaError → String
  | duplicateField type field _ _ =>
    "Multiple fields named `" ++ field ++ "` were defined on the `" ++ type ++ "` type"
  | duplicateRoot kind _ _ =>
    "Multiple `schema` bindings were defined for the " ++ kind.text ++ " operation"
  | duplicateType type _ _ => "Multiple GraphQL types named `" ++ type ++ "` were defined"
  | extensionOfUndefined type _ =>
    "Attempted to extend `" ++ type ++ "`, which is not defined elsewhere"
  | extensionOfOtherKind type existing _ =>
    "Attempted to extend the " ++ existing.text ++ " type `" ++ type ++
      "` with an extension of a different kind"
  | noQueryRoot => "Attempted to build a schema that has no Query operation type defined"
  | unparsable _ p => "Error parsing schema string: " ++ Declaration.parseFault p
  | rootNotObject kind existing type =>
    "The " ++ kind.text ++ " root operation type is bound to `" ++ type ++ "`, which is a " ++
      existing.text ++ " type rather than an object type"
  | unreadable _ => "Failure while trying to read a schema file from disk"
  | undefinedRoot kind binding =>
    "The " ++ kind.text ++ " root operation type is bound to `" ++ binding.type ++
      "`, which is not defined"

/-- Types and root types declared so far, and extensions with the files they come from. -/
structure SchemaDraft where
  types : NameMap NamedType
  roots : ByKind (Option RootBinding)
  extensions : List (Option String × TypeDeclaration)

namespace SchemaDraft

/-- The built-in scalars are there from the start. -/
def builtIns : NameMap NamedType :=
  NameMap.ofList (BuiltInScalar.all.map fun s => (s.name, .builtIn s))

def empty : SchemaDraft := ⟨builtIns, .none, []⟩

/-! ### Taking in declarations -/

/-- Adds fields to those of the type `type`. -/
def addFields (file? : Option String) (type : String) :
    NameMap FieldDefinition → List FieldDeclaration → Except SchemaError (NameMap FieldDefinition)
  | fields, [] => .ok fields
  | fields, f :: fs =>
    let location := Location.source file? f.position
    match fields.get? f.name with
    | some earlier => .error (.duplicateField type f.name earlier.location location)
    | none =>
      addFields file? type
        (fields.insert f.name ⟨f.name, location, .ofTypeRef location f.type⟩) fs

/-- The type that a declaration stands for. -/
def typeOf (file? : Option String) (t : TypeDeclaration) : Except SchemaError NamedType :=
  let location := Location.source file? t.position
  match t.body with
  | .scalar => .ok (.scalar t.name location)
  | .object interfaces fields => do
    return .object ⟨t.name, location, interfaces, ← addFields file? t.name .empty fields⟩
  | .interface interfaces fields => do
    return .interface ⟨t.name, location, interfaces, ← addFields file? t.name .empty fields⟩
  | .union members => .ok (.union t.name location members)
  | .enum values => .ok (.enum t.name location values)
  | .input => .ok (.input t.name location)

/-- A built-in scalar may be declared again, which changes nothing. -/
def redeclaresBuiltIn (t : TypeDeclaration) : Bool :=
  t.body = .scalar && BuiltInScalar.isName t.name

def addType (file? : Option String) (draft : SchemaDraft) (t : TypeDeclaration) :
    Except SchemaError SchemaDraft :=
  if redeclaresBuiltIn t then .ok draft
  else match draft.types.get? t.name with
    | some earlier =>
      .error (.duplicateType t.name earlier.location (.source file? t.position))
    | none => do
      let type ← typeOf file? t
      return { draft with types := draft.types.insert t.name type }

/-- Binds the root type of one kind, if the block names one. -/
def bindRoot (location : Location) (types : ByKind (Option String))
    (roots : ByKind (Option RootBinding)) (kind : OperationKind) :
    Except SchemaError (ByKind (Option RootBinding)) :=
  match types.get kind with
  | none => .ok roots
  | some type =>
    match roots.get kind with
    | some earlier => .error (.duplicateRoot kind earlier ⟨type, location⟩)
    | none => .ok (roots.set (some ⟨type, location⟩) kind)

def addRoots (file? : Option String) (draft : SchemaDraft) (r : RootDeclaration) :
    Except SchemaError SchemaDraft := do
  let location := Location.source file? r.position
  let roots ← bindRoot location r.types draft.roots .query
  let roots ← bindRoot location r.types roots .mutation
  let roots ← bindRoot location r.types roots .subscription
  return { draft with roots := roots }

/-- Takes in one declaration of a file. -/
def declare (file? : Option String) (draft : SchemaDraft) :
    Declaration → Except SchemaError SchemaDraft
  | .roots r => draft.addRoots file? r
  | .type t => draft.addType file? t
  | .extension t => .ok { draft with extensions := draft.extensions ++ [(file?, t)] }
  | .directive _ => .ok draft

/-- The record a declaration leaves that is passed over. -/
def declareNotes : Declaration → List Record
  | .type t =>
    if redeclaresBuiltIn t then
      [⟨.trace, "Skipping redeclaration of built-in scalar `" ++ t.name ++ "`."⟩]
    else []
  | .directive n => [⟨.trace, "Ignoring definition of directive `@" ++ n ++ "`."⟩]
  | _ => []

/-- Takes in the declarations of a file one after the other. -/
def declareAll (file? : Option String) (draft : SchemaDraft) :
    List Declaration → Logged SchemaError SchemaDraft
  | [] => pure draft
  | d :: ds => do
    .tell (declareNotes d)
    let draft ← .silent (draft.declare file? d)
    declareAll file? draft ds

/-- Takes in a text as `read` reads it. -/
def loadWith (read : String → Except Position (List Declaration)) (file? : Option String)
    (text : String) (draft : SchemaDraft) : Logged SchemaError SchemaDraft :=
  match read text with
  | .error p => .stop (.unparsable file? p)
  | .ok ds => draft.declareAll file? ds

/-- Takes in the text of a file as `read` reads it. -/
def loadFileWith (read : String → Except Position (List Declaration)) (disk : Disk)
    (draft : SchemaDraft) (path : String) : Logged SchemaError SchemaDraft :=
  match disk.readText path with
  | .error fault => .stop (.unreadable fault)
  | .ok text => draft.loadWith read (some path) text

def loadFilesWith (read : String → Except Position (List Declaration)) (disk : Disk) :
    SchemaDraft → List String → Logged SchemaError SchemaDraft
  | draft, [] => pure draft
  | draft, path :: paths => do
    let draft ← draft.loadFileWith read disk path
    loadFilesWith read disk draft paths

/-- Takes in a text. -/
def load (file? : Option String) (text : String) (draft : SchemaDraft) :
    Logged SchemaError SchemaDraft :=
  draft.loadWith Declaration.parse file? text

/-- Takes in the text of a file. -/
def loadFile (disk : Disk) (draft : SchemaDraft) (path : String) : Logged SchemaError SchemaDraft :=
  draft.loadFileWith Declaration.parse disk path

def loadFiles (disk : Disk) (draft : SchemaDraft) (paths : List String) :
    Logged SchemaError SchemaDraft :=
  draft.loadFilesWith Declaration.parse disk paths

/-! ### Building -/

/-- The type with what an extension of its kind adds. -/
def extended (file? : Option String) (t : TypeDeclaration) (existing : NamedType) :
    Except SchemaError NamedType :=
  match existing, t.body with
  | .object o, .object interfaces fields => do
    let fields ← addFields file? t.name o.fields fields
    return .object { o with fields := fields, interfaces := o.interfaces ++ interfaces }
  | .interface i, .interface _ fields => do
    return .interface { i with fields := ← addFields file? t.name i.fields fields }
  | .union n l members, .union more => .ok (.union n l (members ++ more))
  | .enum n l values, .enum more => .ok (.enum n l (values ++ more))
  | .input n l, .input => .ok (.input n l)
  | .scalar n l, .scalar => .ok (.scalar n l)
  | .builtIn s, .scalar => .ok (.builtIn s)
  | existing, _ =>
    .error (.extensionOfOtherKind t.name existing.kind (.source file? t.position))

def applyExtension (types : NameMap NamedType) (file? : Option String) (t : TypeDeclaration) :
    Except SchemaError (NameMap NamedType) :=
  match types.get? t.name with
  | none => .error (.extensionOfUndefined t.name (.source file? t.position))
  | some existing => do return types.insert t.name (← extended file? t existing)

def applyExtensions :
    NameMap NamedType → List (Option String × TypeDeclaration) →
      Except SchemaError (NameMap NamedType)
  | types, [] => .ok types
  | types, (file?, t) :: rest => do applyExtensions (← applyExtension types file? t) rest

/-- The root type of a kind: the one bound to it, or else the object type of the default name. -/
def resolveRoot (types : NameMap NamedType) (roots : ByKind (Option RootBinding))
    (kind : OperationKind) : Except SchemaError (Option String) :=
  match roots.get kind with
  | none =>
    match types.get? kind.defaultRoot with
    | some (.object _) => .ok (some kind.defaultRoot)
    | _ => .ok none
  | some binding =>
    match types.get? binding.type with
    | some (.object _) => .ok (some binding.type)
    | some existing => .error (.rootNotObject kind existing.kind binding.type)
    | none => .error (.undefinedRoot kind binding)

/-- Applies the extensions in the order they came and settles the root types. -/
def build (draft : SchemaDraft) : Except SchemaError Schema := do
  let types ← applyExtensions draft.types draft.extensions
  match ← resolveRoot types draft.roots .query with
  | none => .error .noQueryRoot
  | some query =>
    let mutation? ← resolveRoot types draft.roots .mutation
    let subscription? ← resolveRoot types draft.roots .subscription
    return ⟨types, query, mutation?, subscription?⟩

end SchemaDraft

end QueryTariff
