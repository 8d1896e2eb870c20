import QueryTariff.Document
import QueryTariff.Log
import QueryTariff.NameMap

/-!
Expansion of fragments: every spread of a defined fragment becomes an inline fragment with the
fragment's selections, which are expanded in turn.

Spreads that lead back to a fragment being expanded are an error, and so is an expansion of more
selections than a given limit. The recursion ends without the limit: going into a fragment puts a
name on the path that was not there, and there are only so many names.
-/

namespace QueryTariff

/-- Fragments by name. -/
abbrev FragmentTable := NameMap Fragment

namespace FragmentTable

/-- Of several fragments with one name the first one counts. -/
def add (F : FragmentTable) (f : Fragment) : FragmentTable :=
  if F.contains f.name then F else F.insert f.name f

def ofFragments (fs : List Fragment) : FragmentTable := fs.foldl add .empty

def ofDocument (d : Document) : FragmentTable := ofFragments d.fragments

/-- One record for each fragment whose name was taken before. -/
def notesFrom (seen : List String) : List Fragment → List Record
  | [] => []
  | f :: fs =>
    if f.name ∈ seen then
      ⟨.debug, "Fragment `" ++ f.name ++
        "` is defined more than once; inlining the first definition."⟩ :: notesFrom seen fs
    else notesFrom (f.name :: seen) fs

def notes (d : Document) : List Record := notesFrom [] d.fragments

/-- How many fragments are not on the path. -/
def unvisited (F : FragmentTable) (path : List String) : Nat := F.keys.countP (· ∉ path)

theorem countP_lt {xs path : List String} {n : String} (hn : n ∈ xs) (hp : n ∉ path) :
    xs.countP (· ∉ path ++ [n]) < xs.countP (· ∉ path) := by
  have hle (ys : List String) : ys.countP (· ∉ path ++ [n]) ≤ ys.countP (· ∉ path) := by
    apply List.countP_mono_left
    intro y _ hy
    simp only [List.mem_append, decide_eq_true_eq] at hy ⊢
    exact fun h => hy (Or.inl h)
  induction xs with
  | nil => simp at hn
  | cons x xs ih =>
    rw [List.countP_cons, List.countP_cons]
    by_cases hx : x = n
    · subst hx
      have := hle xs
      simp [hp] at this ⊢
      omega
    · have hn' : n ∈ xs := (List.mem_cons.mp hn).resolve_left fun h => hx h.symm
      have := ih hn'
      by_cases hxp : x ∈ path <;> simp [hx, hxp] at this ⊢ <;> omega

/-- Going into a fragment leaves fewer to go into. -/
theorem unvisited_lt {F : FragmentTable} {n : String} {path : List String} {f : Fragment}
    (hf : F.get? n = some f) (hp : n ∉ path) : F.unvisited (path ++ [n]) < F.unvisited path :=
  countP_lt ((F.isSome_get?_iff n).mp (by simp [hf])) hp

end FragmentTable

/-- Reasons not to expand a document. -/
inductive ExpansionError where
  /-- The names of fragments that lead back to themselves; the first is the last. -/
  | cyclic (cycle : List String)
  | tooManySelections (limit : Nat)
deriving DecidableEq, Repr

def ExpansionError.message : ExpansionError → String
  | cyclic cycle => "Cycle detected in fragment spreads: " ++ String.intercalate " → " cycle
  | tooManySelections limit =>
    "Inlining fragment spreads produces more than " ++ toString limit ++ " selections"

namespace Expansion

/-- The limit unless another one is asked for. -/
def defaultLimit : Nat := 100000

/-- Counts one more selection. -/
def countUp (limit count : Nat) : Logged ExpansionError Nat :=
  if limit < count + 1 then .stop (.tooManySelections limit) else pure (count + 1)

/-- The part of the path from `n` on, closed by `n`. -/
def cycleAt (path : List String) (n : String) : List String := path.dropWhile (· ≠ n) ++ [n]

/-- Expands a list of selections. The path holds the fragments being expanded, the outermost first,
and the count is that of the selections written so far. -/
def expandItems (F : FragmentTable) (limit : Nat) (path : List String) (count : Nat)
    (items : List Selection) : Logged ExpansionError (List Selection × Nat) :=
  match items with
  | [] => pure ([], count)
  | .field h sp body :: rest => do
    let count ← countUp limit count
    let (body, count) ← expandItems F limit path count body
    let (rest, count) ← expandItems F limit path count rest
    return (.field h sp body :: rest, count)
  | .inlineFragment p on? ds sp body :: rest => do
    let count ← countUp limit count
    let (body, count) ← expandItems F limit path count body
    let (rest, count) ← expandItems F limit path count rest
    return (.inlineFragment p on? ds sp body :: rest, count)
  | .spread p n ds :: rest => do
    let count ← countUp limit count
    match _hf : F.get? n with
    | none =>
      .debug ("Leaving spread of undefined fragment `" ++ n ++ "` in place.")
      let (rest, count) ← expandItems F limit path count rest
      return (.spread p n ds :: rest, count)
    | some f =>
      if _hp : n ∈ path then .stop (.cyclic (cycleAt path n))
      else
        let (body, count) ← expandItems F limit (path ++ [n]) count f.body.items
        let (rest, count) ← expandItems F limit path count rest
        return (.inlineFragment p (some f.on) ds f.body.span body :: rest, count)
termination_by (F.unvisited path, sizeOf items)
decreasing_by
  all_goals first
    | exact Prod.Lex.left _ _ (FragmentTable.unvisited_lt _hf _hp)
    | (apply Prod.Lex.right; simp only [List.cons.sizeOf_spec, Selection.field.sizeOf_spec,
        Selection.inlineFragment.sizeOf_spec]; omega)

/-- Expands the selections of one definition. A fragment is on the path of its own selections. -/
def expandDefinition (F : FragmentTable) (limit count : Nat) :
    Definition → Logged ExpansionError (Definition × Nat)
  | .operation o => do
    let (items, count) ← expandItems F limit [] count o.body.items
    return (.operation { o with body := ⟨o.body.span, items⟩ }, count)
  | .fragment f => do
    let (items, count) ← expandItems F limit [f.name] count f.body.items
    return (.fragment { f with body := ⟨f.body.span, items⟩ }, count)

/-- Expands definitions one after the other, under one count for all. -/
def expandDefinitions (F : FragmentTable) (limit : Nat) :
    Nat → List Definition → Logged ExpansionError (List Definition)
  | _, [] => pure []
  | count, d :: ds => do
    let (d, count) ← expandDefinition F limit count d
    return d :: (← expandDefinitions F limit count ds)

end Expansion

/-- Expands a document with the fragments of a table. -/
def FragmentTable.expand (F : FragmentTable) (limit : Nat) (d : Document) :
    Logged ExpansionError Document := do
  return ⟨← Expansion.expandDefinitions F limit 0 d.definitions⟩

/-- Expands a document with its own fragments. -/
def Document.expand (limit : Nat) (d : Document) : Logged ExpansionError Document := do
  .tell (FragmentTable.notes d)
  (FragmentTable.ofDocument d).expand limit d

end QueryTariff
