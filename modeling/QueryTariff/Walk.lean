import QueryTariff.EnclosingType
import QueryTariff.PageSize
import QueryTariff.Saturating

/-!
The walk over the selections of an operation, on which both scores are based.

Three stacks are kept up to date on the way: the multipliers of the selection sets around a point,
the fields around it, and the types around it. Every selection set pushes on them when it is entered
and pops when it is left.
-/

namespace QueryTariff

/-- The products of page sizes for the selection sets around a point, the innermost first. At the
bottom lies a one. -/
structure Multipliers where
  stack : List Nat
deriving DecidableEq, Repr

namespace Multipliers

def start : Multipliers := ⟨[1]⟩

def depth (m : Multipliers) : Nat := m.stack.length - 1

def top (m : Multipliers) : Nat := m.stack.head?.getD 1

/-- Enters a selection set; a page size multiplies what is selected in it. -/
def pushFor (m : Multipliers) (pageSize? : Option Nat) : Multipliers :=
  match pageSize? with
  | some p => ⟨Saturating.mul m.top p :: m.stack⟩
  | none => ⟨m.top :: m.stack⟩

/-- Leaves a selection set. What lies at the bottom stays. -/
def pop (m : Multipliers) : Multipliers :=
  match m.stack with
  | _ :: b :: rest => ⟨b :: rest⟩
  | stack => ⟨stack⟩

@[simp] theorem top_pushFor_none (m : Multipliers) : (m.pushFor none).top = m.top := rfl

@[simp] theorem top_pushFor_some (m : Multipliers) (p : Nat) :
    (m.pushFor (some p)).top = Saturating.mul m.top p := rfl

theorem pop_pushFor (m : Multipliers) (h : m.stack ≠ []) (p? : Option Nat) :
    (m.pushFor p?).pop = m := by
  rcases m with ⟨_ | ⟨b, rest⟩⟩
  · exact absurd rfl h
  · cases p? <;> rfl

theorem depth_pushFor (m : Multipliers) (h : m.stack ≠ []) (p? : Option Nat) :
    (m.pushFor p?).depth = m.depth + 1 := by
  rcases m with ⟨_ | ⟨b, rest⟩⟩
  · exact absurd rfl h
  · cases p? <;> simp [pushFor, depth]

end Multipliers

/-- What is known of a field around a point. -/
structure ParentField where
  field : FieldHead
  pageSize? : Option Nat
deriving DecidableEq, Repr

def ParentField.name (p : ParentField) : String := p.field.name

/-- What a score may depend on when a field is met. -/
structure Visit where
  field : FieldHead
  /-- The product of the page sizes of the fields around it. -/
  multiplier : Nat
  pageSize? : Option Nat
  /-- The nearest field around it. -/
  parent? : Option ParentField
  returnType? : Option NamedType
  /-- The type around it is known and has no such field. -/
  undefinedOnParent : Bool

/-- A score that grows with each field. -/
structure Scorer (σ : Type) where
  score : Visit → σ → σ
  notes : Visit → List Record

/-- Why an operation is not walked to its end. -/
structure TooDeep where
  maxDepth : Nat
deriving DecidableEq, Repr

/-- What a walk goes by. -/
structure Walker where
  schema : Schema
  bindings : Bindings
  maxDepth : Nat

/-- The three stacks, each with the innermost entry first. -/
structure WalkState where
  multipliers : Multipliers
  parents : List ParentField
  types : List (Option NamedType)

namespace WalkState

def start : WalkState := ⟨.start, [], []⟩

/-- The type around the point, if it is known. -/
def type? (st : WalkState) : Option NamedType := st.types.head?.join

/-- Enters the selections of a field. -/
def enterField (S : Schema) (st : WalkState) (h : FieldHead) (pageSize? : Option Nat) : WalkState :=
  ⟨st.multipliers.pushFor pageSize?, ⟨h, pageSize?⟩ :: st.parents,
    EnclosingType.enter S st.type? (.field h.name) :: st.types⟩

def leaveField (st : WalkState) : WalkState :=
  ⟨st.multipliers.pop, st.parents.tail, st.types.tail⟩

/-- Enters the selections of an operation or inline fragment, which is no parent of fields. -/
def enterNode (S : Schema) (st : WalkState) (a : Ancestor) : WalkState :=
  ⟨st.multipliers.pushFor none, st.parents, EnclosingType.enter S st.type? a :: st.types⟩

def leaveNode (st : WalkState) : WalkState := ⟨st.multipliers.pop, st.parents, st.types.tail⟩

end WalkState

namespace Walker

/-- What is known of a field where it is met. -/
def visit (W : Walker) (st : WalkState) (h : FieldHead) : Visit :=
  let definition? := st.type?.bind (·.field? h.name)
  { field := h
    multiplier := st.multipliers.top
    pageSize? := pageSize W.bindings h.arguments
    parent? := st.parents.head?
    returnType? := definition?.bind W.schema.returnType?
    undefinedOnParent := st.type?.isSome && definition?.isNone }

/-- An optional value the way records show it. -/
def optionText : Option String → String
  | some s => "Some(" ++ s ++ ")"
  | none => "None"

/-- The records for a field. -/
def visitNotes (W : Walker) (st : WalkState) (h : FieldHead) : List Record :=
  let v := W.visit st h
  let undefinedNotes : List Record := match st.type?, v.undefinedOnParent with
    | some t, true =>
      [⟨.debug, "Not scoring `" ++ h.name ++ "`: type `" ++ t.name ++ "` defines no such field."⟩]
    | _, _ => []
  let visiting : Record := ⟨.trace, "Visiting field `" ++ h.name ++ "` (multiplier: " ++
    toString v.multiplier ++ ", page size: " ++ optionText (v.pageSize?.map toString) ++
    ", return type: " ++ optionText (v.returnType?.map fun t => "\"" ++ t.name ++ "\"") ++ ")"⟩
  pageSizeNotes W.bindings h.arguments ++ undefinedNotes ++ [visiting]

/-- Selection sets may lie only so deep. -/
def checkDepth (W : Walker) (st : WalkState) : Logged TooDeep Unit :=
  if W.maxDepth < st.multipliers.depth then .stop ⟨W.maxDepth⟩ else pure ()

variable {σ : Type}

/-- Walks a list of selections from left to right, into each field and inline fragment. -/
def walkItems (W : Walker) (scorer : Scorer σ) (st : WalkState) (total : σ) :
    List Selection → Logged TooDeep (WalkState × σ)
  | [] => pure (st, total)
  | .field h _ items :: rest => do
    let v := W.visit st h
    .tell (W.visitNotes st h ++ scorer.notes v)
    let total := scorer.score v total
    if items.isEmpty then
      walkItems W scorer st total rest
    else
      .tell (EnclosingType.enterNotes W.schema st.type? (.field h.name))
      let inner := st.enterField W.schema h v.pageSize?
      W.checkDepth inner
      let (inner, total) ← walkItems W scorer inner total items
      walkItems W scorer inner.leaveField total rest
  | .inlineFragment _ on? _ _ items :: rest => do
    .tell (EnclosingType.enterNotes W.schema st.type? (.inlineFragment on?))
    let inner := st.enterNode W.schema (.inlineFragment on?)
    W.checkDepth inner
    let (inner, total) ← walkItems W scorer inner total items
    walkItems W scorer inner.leaveNode total rest
  | .spread _ n _ :: rest => do
    .debug ("Not scoring unresolved spread of fragment `" ++ n ++ "`.")
    walkItems W scorer st total rest

/-- Walks an operation. -/
def walk (W : Walker) (scorer : Scorer σ) (total : σ) (o : Operation) : Logged TooDeep σ := do
  .tell (EnclosingType.enterNotes W.schema none (.operation o.kind))
  let st := WalkState.start.enterNode W.schema (.operation o.kind)
  W.checkDepth st
  let (_, total) ← walkItems W scorer st total o.body.items
  return total

/-- Walks operations one after the other, with one total for all. -/
def walkAll (W : Walker) (scorer : Scorer σ) : σ → List Operation → Logged TooDeep σ
  | total, [] => pure total
  | total, o :: os => do walkAll W scorer (← W.walk scorer total o) os

end Walker

end QueryTariff
