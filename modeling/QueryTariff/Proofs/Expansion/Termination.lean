import QueryTariff.Proofs.Expansion.ReportedCycles
import Mathlib.Data.List.Dedup
import Mathlib.Data.List.Perm.Subperm

/-!
How deep an expansion goes. Nothing but the fragments of a document bounds the calls that expand it:
a run that makes sure of its path at each call, and whose calls may be nested only so deep, answers
the same as one that does neither (`expandChecked_eq`). Cycles that are reported start from a name
and go back to it by other names, each but once (`expand_terminates`).
-/

namespace QueryTariff

open Selection

/-- How deep selection sets lie in each other, those without selections included. -/
def Selection.height : List Selection → Nat
  | [] => 0
  | .field _ _ items :: rest => max (1 + height items) (height rest)
  | .spread .. :: rest => height rest
  | .inlineFragment _ _ _ _ items :: rest => max (1 + height items) (height rest)

namespace Document

/-- The names of fragments, each but once. -/
def fragmentNames (d : Document) : List String := (d.fragments.map Fragment.name).dedup

/-- The largest height in a document. -/
def maxHeight (d : Document) : Nat :=
  (d.definitions.map fun x => height x.body.items).foldr max 0

/-- How deep the calls of an expansion can be nested at most: one fragment in another as often as
there are names, and each as deep as the deepest definition. -/
def callDepth (d : Document) : Nat := (d.fragmentNames.length + 1) * (d.maxHeight + 1)

end Document

/-! ### Expansion with checks -/

/-- What an expansion keeps on its way: the fragments being expanded, the outermost first, and the
number of selections written. -/
structure ExpansionState where
  path : List String
  count : Nat

/-- Why an expansion with checks is not taken to its end. -/
inductive ExpansionFault where
  | expansion (e : ExpansionError)
  /-- Calls would have been nested deeper than they may. -/
  | nestedTooDeep
  /-- The path does not consist of different names of fragments. -/
  | brokenPath

namespace ExpansionState

def push (st : ExpansionState) (n : String) : ExpansionState := { st with path := st.path ++ [n] }

def pop (st : ExpansionState) : ExpansionState := { st with path := st.path.dropLast }

def countUp (limit : Nat) (st : ExpansionState) : Except ExpansionFault ExpansionState :=
  if limit < st.count + 1 then .error (.expansion (.tooManySelections limit))
  else .ok { st with count := st.count + 1 }

/-- Makes sure that the path consists of different names of fragments, and so of no more than there
are. -/
def checkPath (d : Document) (st : ExpansionState) : Except ExpansionFault Unit :=
  if st.path.Nodup ∧ (∀ n ∈ st.path, n ∈ d.fragmentNames) ∧
      st.path.length ≤ d.fragmentNames.length then .ok ()
  else .error .brokenPath

end ExpansionState

namespace Expansion

/-- One call: goes along a list of selections and makes a further call for what is selected in each
of them. -/
def expandAlong (d : Document) (limit : Nat)
    (call : ExpansionState → List Selection →
      Except ExpansionFault (List Selection × ExpansionState)) (st : ExpansionState) :
    List Selection → Except ExpansionFault (List Selection × ExpansionState)
  | [] => .ok ([], st)
  | .field h sp body :: rest => do
    let st ← st.countUp limit
    let (body, st) ← call st body
    let (rest, st) ← expandAlong d limit call st rest
    return (.field h sp body :: rest, st)
  | .inlineFragment p on? ds sp body :: rest => do
    let st ← st.countUp limit
    let (body, st) ← call st body
    let (rest, st) ← expandAlong d limit call st rest
    return (.inlineFragment p on? ds sp body :: rest, st)
  | .spread p n ds :: rest => do
    let st ← st.countUp limit
    match d.fragment? n with
    | none =>
      let (rest, st) ← expandAlong d limit call st rest
      return (.spread p n ds :: rest, st)
    | some f =>
      if n ∈ st.path then .error (.expansion (.cyclic (cycleAt st.path n)))
      else
        let (body, st) ← call (st.push n) f.body.items
        let (rest, st) ← expandAlong d limit call st.pop rest
        return (.inlineFragment p (some f.on) ds f.body.span body :: rest, st)

/-- Expands a list of selections like `expandItems`. Calls may be nested only to the given depth,
and each of them makes sure of the path. -/
def expandItemsChecked (d : Document) (limit : Nat) :
    Nat → ExpansionState → List Selection →
      Except ExpansionFault (List Selection × ExpansionState)
  | 0, _, _ => .error .nestedTooDeep
  | depth + 1, st, items => do
    st.checkPath d
    expandAlong d limit (expandItemsChecked d limit depth) st items

def expandDefinitionChecked (d : Document) (limit depth : Nat) (st : ExpansionState) :
    Definition → Except ExpansionFault (Definition × ExpansionState)
  | .operation o => do
    let (items, st) ← expandItemsChecked d limit depth st o.body.items
    return (.operation { o with body := ⟨o.body.span, items⟩ }, st)
  | .fragment f => do
    let (items, st) ← expandItemsChecked d limit depth (st.push f.name) f.body.items
    return (.fragment { f with body := ⟨f.body.span, items⟩ }, st.pop)

def expandDefinitionsChecked (d : Document) (limit depth : Nat) :
    ExpansionState → List Definition → Except ExpansionFault (List Definition)
  | _, [] => .ok []
  | st, x :: xs => do
    let (x, st) ← expandDefinitionChecked d limit depth st x
    return x :: (← expandDefinitionsChecked d limit depth st xs)

end Expansion

/-- Expands a document with its own fragments and makes sure of the path at each call. -/
def Document.expandChecked (limit depth : Nat) (d : Document) : Except ExpansionFault Document := do
  return ⟨← Expansion.expandDefinitionsChecked d limit depth ⟨[], 0⟩ d.definitions⟩

/-! ### Paths -/

namespace Document

variable {d : Document} {path : List String} {n : String} {f : Fragment}

/-- Different names of fragments. -/
structure IsPath (d : Document) (path : List String) : Prop where
  nodup : path.Nodup
  defined : ∀ n ∈ path, n ∈ d.fragmentNames

theorem mem_fragmentNames_of_fragment? (hf : d.fragment? n = some f) : n ∈ d.fragmentNames := by
  rw [fragmentNames, List.mem_dedup, List.mem_map]
  exact ⟨f, List.mem_of_find?_eq_some hf, name_of_fragment? hf⟩

theorem isPath_nil (d : Document) : d.IsPath [] := ⟨List.nodup_nil, nofun⟩

theorem IsPath.snoc (h : d.IsPath path) (hf : n ∈ d.fragmentNames) (hn : n ∉ path) :
    d.IsPath (path ++ [n]) := by
  refine ⟨?_, ?_⟩
  · rw [← List.concat_eq_append]
    exact List.Nodup.concat hn h.nodup
  · intro m hm
    rcases List.mem_append.mp hm with hm | hm
    · exact h.defined m hm
    · rw [List.mem_singleton.mp hm]
      exact hf

theorem IsPath.checkPath (h : d.IsPath path) (count : Nat) :
    (⟨path, count⟩ : ExpansionState).checkPath d = .ok () := by
  have hlength : path.length ≤ d.fragmentNames.length :=
    (List.Nodup.subperm h.nodup h.defined).length_le
  exact if_pos ⟨h.nodup, h.defined, hlength⟩

/-- How many names are not on the path. -/
def unvisited (d : Document) (path : List String) : Nat := d.fragmentNames.countP (· ∉ path)

/-- How deep calls are nested at most, from these selections on. -/
def depthBelow (d : Document) (path : List String) (items : List Selection) : Nat :=
  height items + d.unvisited path * (d.maxHeight + 1)

theorem le_foldr_max {xs : List Nat} {x : Nat} (hx : x ∈ xs) : x ≤ xs.foldr max 0 := by
  induction xs with
  | nil => cases hx
  | cons y ys ih =>
    rw [List.foldr_cons]
    rcases List.mem_cons.mp hx with rfl | hx
    · exact Nat.le_max_left _ _
    · exact Nat.le_trans (ih hx) (Nat.le_max_right _ _)

theorem height_le_maxHeight {x : Definition} (hx : x ∈ d.definitions) :
    height x.body.items ≤ d.maxHeight :=
  le_foldr_max (List.mem_map_of_mem hx)

theorem depthBelow_field (h : FieldHead) (sp : Span) (body rest : List Selection) :
    d.depthBelow path (.field h sp body :: rest) =
      max (1 + d.depthBelow path body) (d.depthBelow path rest) := by
  simp only [depthBelow, height]
  omega

theorem depthBelow_spread (p : Position) (n : String) (ds : List Directive)
    (rest : List Selection) :
    d.depthBelow path (.spread p n ds :: rest) = d.depthBelow path rest := by
  rw [depthBelow, height, depthBelow]

theorem depthBelow_inlineFragment (p : Position) (on? : Option String) (ds : List Directive)
    (sp : Span) (body rest : List Selection) :
    d.depthBelow path (.inlineFragment p on? ds sp body :: rest) =
      max (1 + d.depthBelow path body) (d.depthBelow path rest) := by
  simp only [depthBelow, height]
  omega

/-- A fragment that is gone into is one less to go into, and this outweighs all that it holds. -/
theorem depthBelow_fragment_lt (hf : d.fragment? n = some f) (hn : n ∉ path)
    (items : List Selection) :
    d.depthBelow (path ++ [n]) f.body.items < d.depthBelow path items := by
  have hheight : height f.body.items ≤ d.maxHeight :=
    height_le_maxHeight (mem_definitions_of_fragment? hf)
  have hless : d.unvisited (path ++ [n]) + 1 ≤ d.unvisited path :=
    FragmentTable.countP_lt (mem_fragmentNames_of_fragment? hf) hn
  have hpaths := Nat.mul_le_mul_right (d.maxHeight + 1) hless
  rw [Nat.add_mul, Nat.one_mul] at hpaths
  unfold depthBelow
  omega

theorem depthBelow_lt_callDepth (path : List String) {x : Definition} (hx : x ∈ d.definitions) :
    d.depthBelow path x.body.items < d.callDepth := by
  have hheight := height_le_maxHeight hx
  have hcount : d.unvisited path ≤ d.fragmentNames.length := List.countP_le_length
  have hpaths := Nat.mul_le_mul_right (d.maxHeight + 1) hcount
  rw [depthBelow, callDepth, Nat.add_mul, Nat.one_mul]
  omega

end Document

namespace Expansion

/-! ### The checks make no difference -/

section
variable {α β : Type} {path : List String} {limit : Nat}

/-- What an expansion answers, with the path that it leaves behind. -/
def onPath (path : List String) (x : Logged ExpansionError (α × Nat)) :
    Except ExpansionFault (α × ExpansionState) :=
  (x.result.map fun r => (r.1, ⟨path, r.2⟩)).mapError .expansion

theorem onPath_bind {path' : List String} {x : Logged ExpansionError (α × Nat)}
    {f : α × Nat → Logged ExpansionError (β × Nat)}
    {g : α × ExpansionState → Except ExpansionFault (β × ExpansionState)}
    (hg : ∀ a count, g (a, ⟨path', count⟩) = onPath path (f (a, count))) :
    (onPath path' x >>= g) = onPath path (x >>= f) := by
  rw [onPath, onPath, Logged.result_bind]
  cases x.result with
  | error e => rfl
  | ok r => exact hg r.1 r.2

theorem onPath_debug (text : String) (x : Logged ExpansionError (α × Nat)) :
    onPath path (.debug text >>= fun _ => x) = onPath path x := by
  rw [onPath, Logged.debug, Logged.result_tell_bind, onPath]

theorem countUp_bind {count : Nat} {f : Nat → Logged ExpansionError (β × Nat)}
    {g : ExpansionState → Except ExpansionFault (β × ExpansionState)}
    (hg : ∀ count, g ⟨path, count⟩ = onPath path (f count)) :
    ((⟨path, count⟩ : ExpansionState).countUp limit >>= g) =
      onPath path (Expansion.countUp limit count >>= f) := by
  rw [ExpansionState.countUp, Expansion.countUp, onPath, Logged.result_bind]
  split_ifs
  · rfl
  · exact hg (count + 1)

end

section
variable {d : Document} {limit : Nat}

/-- The selections in one selection and those after it, each expanded with checks as without. -/
theorem node_onPath (wrap : List Selection → Selection) {path : List String} (path' : List String)
    {call : Except ExpansionFault (List Selection × ExpansionState)}
    {body : Logged ExpansionError (List Selection × Nat)}
    (along : ExpansionState → Except ExpansionFault (List Selection × ExpansionState))
    (rest : Nat → Logged ExpansionError (List Selection × Nat))
    (hcall : call = onPath path' body)
    (halong : ∀ count, along ⟨path', count⟩ = onPath path (rest count)) :
    (call >>= fun r => along r.2 >>= fun t => pure (wrap r.1 :: t.1, t.2)) =
      onPath path (body >>= fun r => rest r.2 >>= fun t => pure (wrap r.1 :: t.1, t.2)) := by
  rw [hcall]
  refine onPath_bind fun inner count => ?_
  rw [halong]
  exact onPath_bind fun after count => rfl

/-- A call answers what its selections come to, if it may be nested deep enough for them. -/
theorem expandItemsChecked_of_along {path : List String} {items : List Selection} {depth : Nat}
    (hdepth : d.depthBelow path items < depth) (hpath : d.IsPath path) {count : Nat}
    {x : Logged ExpansionError (List Selection × Nat)}
    (h : ∀ depth, d.depthBelow path items ≤ depth →
      expandAlong d limit (expandItemsChecked d limit depth) ⟨path, count⟩ items = onPath path x) :
    expandItemsChecked d limit depth ⟨path, count⟩ items = onPath path x := by
  cases depth with
  | zero => omega
  | succ depth =>
    rw [expandItemsChecked, hpath.checkPath, ← h depth (by omega)]
    rfl

theorem expandAlong_eq (path : List String) (items : List Selection) (hpath : d.IsPath path)
    (depth count : Nat) (hdepth : d.depthBelow path items ≤ depth) :
    expandAlong d limit (expandItemsChecked d limit depth) ⟨path, count⟩ items =
      onPath path (expandItems (FragmentTable.ofDocument d) limit path count items) := by
  -- By the recursion of expansion itself; what is left of the depth shrinks with each call.
  induction path, items using unlimited.induct (FragmentTable.ofDocument d)
    generalizing depth count with
  | case1 path =>
    rw [expandAlong, expandItems]
    rfl
  | case2 path head sp body rest ihBody ihRest =>
    rw [Document.depthBelow_field] at hdepth
    have hbody : d.depthBelow path body < depth := by omega
    have hrest : d.depthBelow path rest ≤ depth := by omega
    rw [expandAlong, expandItems]
    exact countUp_bind fun count => node_onPath (.field head sp) path
      (fun st => expandAlong d limit _ st rest) (fun count => expandItems _ limit path count rest)
      (expandItemsChecked_of_along hbody hpath fun depth hd => ihBody hpath depth count hd)
      fun count => ihRest hpath depth count hrest
  | case3 path p on? ds sp body rest ihBody ihRest =>
    rw [Document.depthBelow_inlineFragment] at hdepth
    have hbody : d.depthBelow path body < depth := by omega
    have hrest : d.depthBelow path rest ≤ depth := by omega
    rw [expandAlong, expandItems]
    exact countUp_bind fun count => node_onPath (.inlineFragment p on? ds sp) path
      (fun st => expandAlong d limit _ st rest) (fun count => expandItems _ limit path count rest)
      (expandItemsChecked_of_along hbody hpath fun depth hd => ihBody hpath depth count hd)
      fun count => ihRest hpath depth count hrest
  | case4 path p n ds rest hf ih =>
    rw [Document.depthBelow_spread] at hdepth
    rw [expandAlong, expandItems_undefined p ds rest hf]
    rw [FragmentTable.get?_ofDocument] at hf
    refine countUp_bind fun count => ?_
    rw [hf, onPath_debug]
    dsimp only
    rw [ih hpath depth count hdepth]
    exact onPath_bind fun after count => rfl
  | case5 path p n ds rest f hf hp =>
    rw [expandAlong, expandItems_cyclic p ds rest hf hp]
    rw [FragmentTable.get?_ofDocument] at hf
    refine countUp_bind fun count => ?_
    rw [hf]
    exact if_pos hp
  | case6 path p n ds rest f hf hp ihBody ihRest =>
    rw [expandAlong, expandItems_spread p ds rest hf hp]
    rw [FragmentTable.get?_ofDocument] at hf
    have hpath' := hpath.snoc (Document.mem_fragmentNames_of_fragment? hf) hp
    have hbody := Nat.lt_of_lt_of_le (Document.depthBelow_fragment_lt hf hp _) hdepth
    rw [Document.depthBelow_spread] at hdepth
    refine countUp_bind fun count => ?_
    rw [hf]
    dsimp only
    rw [if_neg hp]
    refine node_onPath (.inlineFragment p (some f.on) ds f.body.span) (path ++ [n])
      (fun st => expandAlong d limit _ st.pop rest) (fun count => expandItems _ limit path count rest)
      (expandItemsChecked_of_along hbody hpath' fun depth hd => ihBody hpath' depth count hd)
      fun count => ?_
    rw [ExpansionState.pop, List.dropLast_concat]
    exact ihRest hpath depth count hdepth

theorem isPath_of_fragment {f : Fragment} (hf : .fragment f ∈ d.definitions) :
    d.IsPath [f.name] := by
  refine d.isPath_nil.snoc ?_ List.not_mem_nil
  rw [Document.fragmentNames, List.mem_dedup]
  exact List.mem_map_of_mem (Document.mem_fragments.mpr hf)

theorem expandDefinitionChecked_eq {depth : Nat} (hdepth : d.callDepth ≤ depth) {x : Definition}
    (hx : x ∈ d.definitions) (count : Nat) :
    expandDefinitionChecked d limit depth ⟨[], count⟩ x =
      onPath [] (expandDefinition (FragmentTable.ofDocument d) limit count x) := by
  have hcall {path : List String} (hpath : d.IsPath path) :
      expandItemsChecked d limit depth ⟨path, count⟩ x.body.items =
        onPath path (expandItems (FragmentTable.ofDocument d) limit path count x.body.items) := by
    have hlt := Nat.lt_of_lt_of_le (Document.depthBelow_lt_callDepth path hx) hdepth
    exact expandItemsChecked_of_along hlt hpath fun depth hd => expandAlong_eq path _ hpath _ _ hd
  cases x with
  | operation o =>
    rw [expandDefinitionChecked, expandDefinition]
    refine (congrArg (· >>= _) (hcall d.isPath_nil)).trans ?_
    exact onPath_bind fun items count => rfl
  | fragment f =>
    rw [expandDefinitionChecked, expandDefinition]
    refine (congrArg (· >>= _) (hcall (isPath_of_fragment hx))).trans ?_
    exact onPath_bind fun items count => rfl

theorem expandDefinitionsChecked_eq {depth : Nat} (hdepth : d.callDepth ≤ depth)
    {xs : List Definition} (hxs : ∀ x ∈ xs, x ∈ d.definitions) (count : Nat) :
    expandDefinitionsChecked d limit depth ⟨[], count⟩ xs =
      (expandDefinitions (FragmentTable.ofDocument d) limit count xs).result.mapError
        .expansion := by
  induction xs generalizing count with
  | nil => rfl
  | cons x xs ih =>
    rw [List.forall_mem_cons] at hxs
    rw [expandDefinitionsChecked, expandDefinitions,
      expandDefinitionChecked_eq hdepth hxs.1, onPath, Logged.result_bind]
    cases (expandDefinition (FragmentTable.ofDocument d) limit count x).result with
    | error e => rfl
    | ok r =>
      simp only [Except.map, Except.mapError, Logged.ok_bind, ih hxs.2, Logged.result_bind]
      cases (expandDefinitions (FragmentTable.ofDocument d) limit r.2 xs).result <;> rfl

end

/-! ### The shape of a cycle -/

theorem exists_cycleAt_eq {path : List String} {n : String} (hn : n ∈ path) :
    ∃ names, cycleAt path n = n :: (names ++ [n]) ∧ n :: names <:+ path := by
  induction path with
  | nil => cases hn
  | cons m path ih =>
    rw [cycleAt_cons]
    by_cases hm : m = n
    · subst hm
      exact ⟨path, if_pos rfl, List.suffix_refl _⟩
    · obtain ⟨names, hcycle, hsuffix⟩ := ih ((List.mem_cons.mp hn).resolve_left (Ne.symm hm))
      exact ⟨names, (if_neg hm).trans hcycle, hsuffix.trans (List.suffix_cons m path)⟩

/-- A cycle is reported where a path leads back to one of its names. -/
theorem cycle_of_unlimited (d : Document) (path : List String) (items : List Selection)
    (c : List String) (hpath : d.IsPath path)
    (h : (unlimited (FragmentTable.ofDocument d) path items).result = .error c) :
    ∃ path' n, d.IsPath path' ∧ n ∈ path' ∧ c = cycleAt path' n := by
  induction path, items using unlimited.induct (FragmentTable.ofDocument d) with
  | case1 path =>
    rw [unlimited] at h
    cases h
  | case2 path head sp body rest ihBody ihRest =>
    rw [unlimited] at h
    exact (Counted.node_eq_error h).elim (ihBody hpath) (ihRest hpath)
  | case3 path p on? ds sp body rest ihBody ihRest =>
    rw [unlimited] at h
    exact (Counted.node_eq_error h).elim (ihBody hpath) (ihRest hpath)
  | case4 path p n ds rest hf ih =>
    rw [unlimited_undefined p ds rest hf] at h
    rcases Counted.node_eq_error h with h | h
    · cases h
    · exact ih hpath h
  | case5 path p n ds rest f hf hp =>
    rw [unlimited_cyclic p ds rest hf hp] at h
    cases h
    exact ⟨path, n, hpath, hp, rfl⟩
  | case6 path p n ds rest f hf hp ihBody ihRest =>
    rw [unlimited_spread p ds rest hf hp] at h
    rw [FragmentTable.get?_ofDocument] at hf
    have hpath' := hpath.snoc (Document.mem_fragmentNames_of_fragment? hf) hp
    exact (Counted.node_eq_error h).elim (ihBody hpath') (ihRest hpath)

theorem cycle_of_unlimitedDefinition {d : Document} {x : Definition} (hx : x ∈ d.definitions)
    {c : List String}
    (h : (unlimitedDefinition (FragmentTable.ofDocument d) x).result = .error c) :
    ∃ path n, d.IsPath path ∧ n ∈ path ∧ c = cycleAt path n := by
  cases x with
  | operation o =>
    rcases Counted.result_bind_eq_error.mp h with h | ⟨_, _, h⟩
    · exact cycle_of_unlimited d _ _ c d.isPath_nil h
    · cases h
  | fragment f =>
    rcases Counted.result_bind_eq_error.mp h with h | ⟨_, _, h⟩
    · exact cycle_of_unlimited d _ _ c (isPath_of_fragment hx) h
    · cases h

end Expansion

namespace Document

open Expansion

/-- Checks of the path never fail, and calls are never nested deeper than `callDepth` says, which
does not depend on the limit. -/
theorem expandChecked_eq (d : Document) (limit : Nat) {depth : Nat} (h : d.callDepth ≤ depth) :
    d.expandChecked limit depth = (d.expand limit).result.mapError .expansion := by
  rw [expandChecked, expandDefinitionsChecked_eq h fun _ hx => hx, expand_result,
    FragmentTable.expand, Logged.result_bind]
  cases (expandDefinitions (FragmentTable.ofDocument d) limit 0 d.definitions).result <;> rfl

theorem exists_path_of_cycle {d : Document} {limit : Nat} {c : List String}
    (h : (d.expand limit).result = .error (.cyclic c)) :
    ∃ n names, c = n :: (names ++ [n]) ∧ d.IsPath (n :: names) := by
  rw [expand_result, FragmentTable.expand_eq_cyclic] at h
  obtain ⟨before, x, after, -, hsplit, -, -, hx, -⟩ := exists_first_failure _ _ c h.2
  have hmem : x ∈ d.definitions := by simp [hsplit]
  obtain ⟨path, n, hpath, hn, rfl⟩ := cycle_of_unlimitedDefinition hmem hx
  obtain ⟨names, hcycle, hsuffix⟩ := exists_cycleAt_eq hn
  refine ⟨n, names, hcycle, hpath.nodup.sublist hsuffix.sublist, fun m hm => ?_⟩
  exact hpath.defined m (hsuffix.subset hm)

/-- Whatever its limit, the expansion of a document comes to an end, also where fragments lead back
to themselves: its path consists of different names of fragments at each call, and no call is nested
deeper than `callDepth`. A cycle that it reports goes from a name back to that name, and there is no
other repetition in it. -/
theorem expand_terminates (d : Document) (limit : Nat) :
    (∀ depth, d.callDepth ≤ depth →
      d.expandChecked limit depth = (d.expand limit).result.mapError .expansion) ∧
    ∀ c, (d.expand limit).result = .error (.cyclic c) →
      ∃ n names, c = n :: (names ++ [n]) ∧ (n :: names).Nodup ∧
        ∀ m ∈ n :: names, m ∈ d.fragmentNames := by
  refine ⟨fun depth h => d.expandChecked_eq limit h, fun c h => ?_⟩
  obtain ⟨n, names, hc, hpath⟩ := exists_path_of_cycle h
  exact ⟨n, names, hc, hpath.nodup, hpath.defined⟩

end Document

namespace Sample

/-- A cycle below fragments that are on no cycle, of which one is defined twice. -/
def cycleBelow : Document where
  definitions := [query [select "a" [spread "A"]], fragment "A" "T" [select "x" [spread "B"]],
    fragment "B" "T" [spread "C"], fragment "A" "T" [], fragment "C" "T" [select "y" [spread "B"]]]

theorem expand_cycleBelow :
    cycleBelow.callDepth = 8 ∧
    (cycleBelow.expand 10).result = .error (.cyclic ["B", "C", "B"]) ∧
    cycleBelow.expandChecked 10 8 = .error (.expansion (.cyclic ["B", "C", "B"])) ∧
    ∃ n names, ["B", "C", "B"] = n :: (names ++ [n]) ∧ (n :: names).Nodup ∧
      ∀ m ∈ n :: names, m ∈ cycleBelow.fragmentNames := by
  have hdepth : cycleBelow.callDepth = 8 := by cbv
  have h : (cycleBelow.expand 10).result = .error (.cyclic ["B", "C", "B"]) := by cbv
  obtain ⟨hchecked, hcycle⟩ := Document.expand_terminates cycleBelow 10
  refine ⟨hdepth, h, ?_, hcycle _ h⟩
  rw [hchecked 8 hdepth.le, h]
  rfl

/-- The calls for the operation, `a`, `A`, `x`, `B`, `C` and `y` lie in each other. -/
example : cycleBelow.expandChecked 10 6 = .error .nestedTooDeep := by cbv

end Sample

end QueryTariff
