import QueryTariff.Expansion

/-!
Expansion without a limit. It counts the selections it writes but never stops for their number, so
its answer is one for all limits; a limit only cuts it off (`expandItems_result`).
-/

namespace QueryTariff

namespace Expansion

/-- An answer, or the cycle that there is instead, with the selections counted on the way. -/
structure Counted (α : Type) where
  count : Nat
  result : Except (List String) α

namespace Counted

variable {α β : Type}

def andThen (x : Counted α) (f : α → Counted β) : Counted β :=
  match x.result with
  | .ok a => ⟨x.count + (f a).count, (f a).result⟩
  | .error c => ⟨x.count, .error c⟩

instance : Monad Counted where
  pure a := ⟨0, .ok a⟩
  bind := andThen

def one : Counted Unit := ⟨1, .ok ()⟩

def cycle (c : List String) : Counted α := ⟨0, .error c⟩

/-- What is left of an answer under a limit, if so many selections were counted before. -/
def within (limit before : Nat) (x : Counted α) : Except ExpansionError (α × Nat) :=
  if before + x.count ≤ limit then
    match x.result with
    | .ok a => .ok (a, before + x.count)
    | .error c => .error (.cyclic c)
  else .error (.tooManySelections limit)

@[simp] theorem result_pure (a : α) : (pure a : Counted α).result = .ok a := rfl

@[simp] theorem result_one : one.result = .ok () := rfl

@[simp] theorem result_cycle (c : List String) : (cycle c : Counted α).result = .error c := rfl

@[simp] theorem result_bind (x : Counted α) (f : α → Counted β) :
    (x >>= f).result = x.result >>= fun a => (f a).result := by
  show (andThen x f).result = _
  unfold andThen
  cases x.result <;> rfl

theorem pure_bind (a : α) (f : α → Counted β) : (pure a >>= f) = f a := by
  show (⟨0 + (f a).count, (f a).result⟩ : Counted β) = f a
  rw [Nat.zero_add]

theorem result_bind_eq_ok {x : Counted α} {f : α → Counted β} {b : β} :
    (x >>= f).result = .ok b ↔ ∃ a, x.result = .ok a ∧ (f a).result = .ok b := by
  rw [result_bind]
  cases x.result <;> simp

theorem result_bind_eq_error {x : Counted α} {f : α → Counted β} {c : List String} :
    (x >>= f).result = .error c ↔
      x.result = .error c ∨ ∃ a, x.result = .ok a ∧ (f a).result = .error c := by
  rw [result_bind]
  cases x.result <;> simp

theorem within_pure (limit before : Nat) (a : α) (h : before ≤ limit) :
    (pure a : Counted α).within limit before = .ok (a, before) := by
  show (if before + 0 ≤ limit then _ else _) = _
  rw [Nat.add_zero, if_pos h]
  rfl

theorem within_bind (limit before : Nat) (x : Counted α) (f : α → Counted β) :
    (x >>= f).within limit before =
      x.within limit before >>= fun r => (f r.1).within limit r.2 := by
  show (andThen x f).within limit before = _
  cases hx : x.result with
  | error c =>
    simp only [andThen, within, hx]
    split <;> rfl
  | ok a =>
    simp only [andThen, within, hx]
    by_cases h : before + x.count ≤ limit
    · rw [if_pos h, Logged.ok_bind, Nat.add_assoc]
    · rw [if_neg h, if_neg (by omega), Logged.error_bind]

theorem within_eq_ok {limit before after : Nat} {x : Counted α} {a : α} :
    x.within limit before = .ok (a, after) ↔
      before + x.count ≤ limit ∧ x.result = .ok a ∧ after = before + x.count := by
  unfold within
  by_cases h : before + x.count ≤ limit
  · rw [if_pos h]
    cases x.result <;> simp [h, eq_comm]
  · simp [h]

theorem le_of_within_eq_ok {limit before after : Nat} {x : Counted α} {a : α}
    (h : x.within limit before = .ok (a, after)) : after ≤ limit := by
  obtain ⟨hle, -, rfl⟩ := within_eq_ok.mp h
  exact hle

end Counted

/-- One selection with what is selected in it, before the selections that follow. -/
def Counted.node (wrap : List Selection → Selection) (body rest : Counted (List Selection)) :
    Counted (List Selection) := do
  .one
  let body ← body
  let rest ← rest
  return wrap body :: rest

theorem Counted.node_eq_ok {wrap : List Selection → Selection} {body rest : Counted (List Selection)}
    {out : List Selection} :
    (node wrap body rest).result = .ok out ↔
      ∃ body' rest', body.result = .ok body' ∧ rest.result = .ok rest' ∧ out = wrap body' :: rest' := by
  simp only [node, result_bind, result_one, Logged.ok_bind]
  cases body.result with
  | error c => simp
  | ok b => cases rest.result <;> simp [eq_comm]

theorem Counted.node_eq_error {wrap : List Selection → Selection}
    {body rest : Counted (List Selection)} {c : List String}
    (h : (node wrap body rest).result = .error c) :
    body.result = .error c ∨ rest.result = .error c := by
  simp only [node, result_bind, result_one, Logged.ok_bind] at h
  cases hb : body.result with
  | error e =>
    rw [hb] at h
    exact .inl h
  | ok b =>
    rw [hb] at h
    cases hr : rest.result with
    | error e =>
      rw [hr] at h
      exact .inr h
    | ok r =>
      rw [hr] at h
      cases h

/-- Expands a list of selections, whatever their number. -/
def unlimited (F : FragmentTable) (path : List String) (items : List Selection) :
    Counted (List Selection) :=
  match items with
  | [] => pure []
  | .field h sp body :: rest =>
    .node (.field h sp) (unlimited F path body) (unlimited F path rest)
  | .inlineFragment p on? ds sp body :: rest =>
    .node (.inlineFragment p on? ds sp) (unlimited F path body) (unlimited F path rest)
  | .spread p n ds :: rest =>
    match _hf : F.get? n with
    | none => .node (fun _ => .spread p n ds) (pure []) (unlimited F path rest)
    | some f =>
      if _hp : n ∈ path then Counted.one >>= fun _ => .cycle (cycleAt path n)
      else
        .node (.inlineFragment p (some f.on) ds f.body.span)
          (unlimited F (path ++ [n]) f.body.items) (unlimited F path rest)
termination_by (F.unvisited path, sizeOf items)
decreasing_by
  all_goals first
    | exact Prod.Lex.left _ _ (FragmentTable.unvisited_lt _hf _hp)
    | (apply Prod.Lex.right; simp only [List.cons.sizeOf_spec, Selection.field.sizeOf_spec,
        Selection.inlineFragment.sizeOf_spec]; omega)

section equations

variable {F : FragmentTable} {path : List String} {n : String} {f : Fragment}

theorem unlimited_undefined (p : Position) (ds : List Directive) (rest : List Selection)
    (hf : F.get? n = none) :
    unlimited F path (.spread p n ds :: rest) =
      .node (fun _ => .spread p n ds) (pure []) (unlimited F path rest) := by
  rw [unlimited]
  split
  · rfl
  · rename_i g hg
    rw [hf] at hg
    cases hg

theorem unlimited_cyclic (p : Position) (ds : List Directive) (rest : List Selection)
    (hf : F.get? n = some f) (hp : n ∈ path) :
    unlimited F path (.spread p n ds :: rest) =
      (Counted.one >>= fun _ => .cycle (cycleAt path n)) := by
  rw [unlimited]
  split
  · rename_i hg
    rw [hf] at hg
    cases hg
  · rw [dif_pos hp]

theorem unlimited_spread (p : Position) (ds : List Directive) (rest : List Selection)
    (hf : F.get? n = some f) (hp : n ∉ path) :
    unlimited F path (.spread p n ds :: rest) =
      .node (.inlineFragment p (some f.on) ds f.body.span)
        (unlimited F (path ++ [n]) f.body.items) (unlimited F path rest) := by
  rw [unlimited]
  split
  · rename_i hg
    rw [hf] at hg
    cases hg
  · rename_i g hg
    rw [hf] at hg
    cases hg
    rw [dif_neg hp]

variable {limit before : Nat}

theorem expandItems_undefined (p : Position) (ds : List Directive) (rest : List Selection)
    (hf : F.get? n = none) :
    expandItems F limit path before (.spread p n ds :: rest) =
      (countUp limit before >>= fun count =>
        .debug ("Leaving spread of undefined fragment `" ++ n ++ "` in place.") >>= fun _ =>
        expandItems F limit path count rest >>= fun r => pure (.spread p n ds :: r.1, r.2)) := by
  rw [expandItems]
  split
  · rfl
  · rename_i g hg
    rw [hf] at hg
    cases hg

theorem expandItems_cyclic (p : Position) (ds : List Directive) (rest : List Selection)
    (hf : F.get? n = some f) (hp : n ∈ path) :
    expandItems F limit path before (.spread p n ds :: rest) =
      (countUp limit before >>= fun _ => .stop (.cyclic (cycleAt path n))) := by
  rw [expandItems]
  split
  · rename_i hg
    rw [hf] at hg
    cases hg
  · exact congrArg _ (funext fun _ => dif_pos hp)

theorem expandItems_spread (p : Position) (ds : List Directive) (rest : List Selection)
    (hf : F.get? n = some f) (hp : n ∉ path) :
    expandItems F limit path before (.spread p n ds :: rest) =
      (countUp limit before >>= fun count =>
        expandItems F limit (path ++ [n]) count f.body.items >>= fun r =>
        expandItems F limit path r.2 rest >>= fun t =>
        pure (.inlineFragment p (some f.on) ds f.body.span r.1 :: t.1, t.2)) := by
  rw [expandItems]
  split
  · rename_i hg
    rw [hf] at hg
    cases hg
  · rename_i g hg
    rw [hf] at hg
    cases hg
    exact congrArg _ (funext fun _ => dif_neg hp)

end equations

section limited

variable {α β : Type} {limit before : Nat}

theorem bind_result {x : Logged ExpansionError (α × Nat)} {y : Counted α}
    {f : α × Nat → Logged ExpansionError (β × Nat)} {g : α → Counted β}
    (hx : x.result = y.within limit before)
    (hf : ∀ a count, count ≤ limit → (f (a, count)).result = (g a).within limit count) :
    (x >>= f).result = (y >>= g).within limit before := by
  rw [Logged.result_bind, hx, Counted.within_bind]
  cases hy : y.within limit before with
  | error e => rfl
  | ok r => exact hf r.1 r.2 (Counted.le_of_within_eq_ok hy)

theorem countUp_bind_result {f : Nat → Logged ExpansionError (β × Nat)} {g : Unit → Counted β}
    (hf : ∀ count, count ≤ limit → (f count).result = (g ()).within limit count) :
    (countUp limit before >>= f).result = (Counted.one >>= g).within limit before := by
  rw [Logged.result_bind, Counted.within_bind, countUp, Counted.within, Counted.one]
  by_cases h : before + 1 ≤ limit
  · rw [if_neg (by omega), if_pos h]
    exact hf (before + 1) h
  · rw [if_pos (by omega), if_neg h]
    rfl

theorem inner_result {x y : Nat → Logged ExpansionError (List Selection × Nat)}
    {body rest : Counted (List Selection)} (wrap : List Selection → Selection)
    (hx : ∀ count, count ≤ limit → (x count).result = body.within limit count)
    (hy : ∀ count, count ≤ limit → (y count).result = rest.within limit count)
    (count : Nat) (hc : count ≤ limit) :
    (x count >>= fun r => y r.2 >>= fun t => pure (wrap r.1 :: t.1, t.2)).result =
      (body >>= fun inner => rest >>= fun after => pure (wrap inner :: after)).within limit count := by
  refine bind_result (hx count hc) fun inner count hc => ?_
  refine bind_result (hy count hc) fun after count hc => ?_
  rw [Counted.within_pure _ _ _ hc]
  rfl

end limited

/-- Under a limit, expansion gives what it gives without one, cut off at the limit. -/
theorem expandItems_result (F : FragmentTable) (limit : Nat) (path : List String) (before : Nat)
    (items : List Selection) (h : before ≤ limit) :
    (expandItems F limit path before items).result =
      (unlimited F path items).within limit before := by
  induction path, items using unlimited.induct F generalizing before with
  | case1 path =>
    rw [expandItems, unlimited, Counted.within_pure limit before [] h]
    rfl
  | case2 path head sp body rest ihBody ihRest =>
    rw [expandItems, unlimited]
    exact countUp_bind_result (inner_result (.field head sp) ihBody ihRest)
  | case3 path p on? ds sp body rest ihBody ihRest =>
    rw [expandItems, unlimited]
    exact countUp_bind_result (inner_result (.inlineFragment p on? ds sp) ihBody ihRest)
  | case4 path p n ds rest hf ih =>
    rw [expandItems_undefined p ds rest hf, unlimited_undefined p ds rest hf]
    refine countUp_bind_result fun count hc => ?_
    rw [Counted.pure_bind, Logged.debug, Logged.result_tell_bind]
    refine bind_result (ih count hc) fun after count hc => ?_
    rw [Counted.within_pure _ _ _ hc]
    rfl
  | case5 path p n ds rest f hf hp =>
    rw [expandItems_cyclic p ds rest hf hp, unlimited_cyclic p ds rest hf hp]
    refine countUp_bind_result fun count hc => ?_
    simp [Counted.within, Counted.cycle, hc]
  | case6 path p n ds rest f hf hp ihBody ihRest =>
    rw [expandItems_spread p ds rest hf hp, unlimited_spread p ds rest hf hp]
    exact countUp_bind_result
      (inner_result (.inlineFragment p (some f.on) ds f.body.span) ihBody ihRest)

def unlimitedDefinition (F : FragmentTable) : Definition → Counted Definition
  | .operation o => do
    let items ← unlimited F [] o.body.items
    return .operation { o with body := ⟨o.body.span, items⟩ }
  | .fragment f => do
    let items ← unlimited F [f.name] f.body.items
    return .fragment { f with body := ⟨f.body.span, items⟩ }

def unlimitedDefinitions (F : FragmentTable) : List Definition → Counted (List Definition)
  | [] => pure []
  | d :: ds => do
    let d ← unlimitedDefinition F d
    let ds ← unlimitedDefinitions F ds
    return d :: ds

section definitions

variable {F : FragmentTable} {x y : Definition} {c : List String}

theorem unlimitedDefinitions_cons_of_error (h : (unlimitedDefinition F x).result = .error c)
    (xs : List Definition) :
    unlimitedDefinitions F (x :: xs) = ⟨(unlimitedDefinition F x).count, .error c⟩ := by
  show Counted.andThen _ _ = _
  rw [Counted.andThen, h]

theorem unlimitedDefinitions_cons_of_ok (h : (unlimitedDefinition F x).result = .ok y)
    (xs : List Definition) :
    unlimitedDefinitions F (x :: xs) =
      ⟨(unlimitedDefinition F x).count + (unlimitedDefinitions F xs).count,
        (unlimitedDefinitions F xs).result.map (y :: ·)⟩ := by
  show Counted.andThen _ _ = _
  rw [Counted.andThen, h]
  show (⟨_ + (Counted.andThen _ _).count, (Counted.andThen _ _).result⟩ : Counted _) = _
  cases hxs : (unlimitedDefinitions F xs).result <;> rw [Counted.andThen, hxs] <;> rfl

end definitions

/-- Definitions that report a cycle have a first one that does. -/
theorem exists_first_failure (F : FragmentTable) (xs : List Definition) (c : List String)
    (h : (unlimitedDefinitions F xs).result = .error c) :
    ∃ before x after done, xs = before ++ x :: after ∧
      (unlimitedDefinitions F before).result = .ok done ∧
      (unlimitedDefinitions F before).count ≤ (unlimitedDefinitions F xs).count ∧
      (unlimitedDefinition F x).result = .error c ∧
      (unlimitedDefinitions F (before ++ [x])).result = .error c ∧
      (unlimitedDefinitions F (before ++ [x])).count = (unlimitedDefinitions F xs).count := by
  induction xs with
  | nil => cases h
  | cons y ys ih =>
    cases hy : (unlimitedDefinition F y).result with
    | error c' =>
      simp only [unlimitedDefinitions_cons_of_error hy] at h ⊢
      cases h
      refine ⟨[], y, ys, [], rfl, rfl, Nat.zero_le _, hy, ?_⟩
      simp [unlimitedDefinitions_cons_of_error hy]
    | ok z =>
      simp only [unlimitedDefinitions_cons_of_ok hy] at h ⊢
      cases hys : (unlimitedDefinitions F ys).result with
      | ok zs =>
        rw [hys] at h
        cases h
      | error c' =>
        rw [hys] at h
        cases h
        obtain ⟨before, x, after, done, hsplit, hdone, hle, hx, herror, hcount⟩ := ih hys
        refine ⟨y :: before, x, after, z :: done, ?_, ?_, ?_, hx, ?_, ?_⟩
        · rw [hsplit, List.cons_append]
        · rw [unlimitedDefinitions_cons_of_ok hy, hdone]
          rfl
        · rw [unlimitedDefinitions_cons_of_ok hy]
          exact Nat.add_le_add_left hle _
        · rw [List.cons_append, unlimitedDefinitions_cons_of_ok hy, herror]
          rfl
        · rw [List.cons_append, unlimitedDefinitions_cons_of_ok hy, hcount]

theorem expandDefinition_result (F : FragmentTable) (limit before : Nat) (d : Definition)
    (h : before ≤ limit) :
    (expandDefinition F limit before d).result =
      (unlimitedDefinition F d).within limit before := by
  cases d with
  | operation o =>
    refine bind_result (expandItems_result F limit [] before o.body.items h) fun items count hc => ?_
    rw [Counted.within_pure _ _ _ hc]
    rfl
  | fragment f =>
    refine bind_result (expandItems_result F limit [f.name] before f.body.items h)
      fun items count hc => ?_
    rw [Counted.within_pure _ _ _ hc]
    rfl

theorem expandDefinitions_result (F : FragmentTable) (limit before : Nat) (ds : List Definition)
    (h : before ≤ limit) :
    (expandDefinitions F limit before ds).result =
      ((unlimitedDefinitions F ds).within limit before).map Prod.fst := by
  induction ds generalizing before with
  | nil =>
    rw [expandDefinitions, unlimitedDefinitions, Counted.within_pure _ _ _ h]
    rfl
  | cons d ds ih =>
    rw [expandDefinitions, unlimitedDefinitions, Logged.result_bind, Counted.within_bind,
      expandDefinition_result F limit before d h]
    cases hd : (unlimitedDefinition F d).within limit before with
    | error e => rfl
    | ok r =>
      have hle := Counted.le_of_within_eq_ok hd
      simp only [Logged.ok_bind, Logged.result_bind, Counted.within_bind, ih r.2 hle]
      cases hds : (unlimitedDefinitions F ds).within limit r.2 with
      | error e => rfl
      | ok t =>
        simp only [Logged.ok_bind, Counted.within_pure _ _ _ (Counted.le_of_within_eq_ok hds)]
        rfl

end Expansion

open Expansion

namespace FragmentTable

theorem expand_result (F : FragmentTable) (limit : Nat) (d : Document) :
    (F.expand limit d).result =
      ((unlimitedDefinitions F d.definitions).within limit 0).map fun r => ⟨r.1⟩ := by
  rw [expand, Logged.result_bind,
    expandDefinitions_result _ limit 0 d.definitions (Nat.zero_le limit)]
  cases (unlimitedDefinitions F d.definitions).within limit 0 <;> rfl

theorem expand_eq_ok (F : FragmentTable) (limit : Nat) (d o : Document) :
    (F.expand limit d).result = .ok o ↔
      (unlimitedDefinitions F d.definitions).count ≤ limit ∧
      (unlimitedDefinitions F d.definitions).result = .ok o.definitions := by
  obtain ⟨ds⟩ := o
  rw [expand_result, Counted.within, Nat.zero_add]
  by_cases h : (unlimitedDefinitions F d.definitions).count ≤ limit
  · rw [if_pos h]
    cases (unlimitedDefinitions F d.definitions).result <;> simp [Except.map, h]
  · simp [h, Except.map]

theorem expand_eq_cyclic (F : FragmentTable) (limit : Nat) (d : Document) (c : List String) :
    (F.expand limit d).result = .error (.cyclic c) ↔
      (unlimitedDefinitions F d.definitions).count ≤ limit ∧
      (unlimitedDefinitions F d.definitions).result = .error c := by
  rw [expand_result, Counted.within, Nat.zero_add]
  by_cases h : (unlimitedDefinitions F d.definitions).count ≤ limit
  · rw [if_pos h]
    cases (unlimitedDefinitions F d.definitions).result <;> simp [Except.map, h]
  · simp [h, Except.map]

theorem expand_eq_tooMany (F : FragmentTable) (limit n : Nat) (d : Document) :
    (F.expand limit d).result = .error (.tooManySelections n) ↔
      limit < (unlimitedDefinitions F d.definitions).count ∧ n = limit := by
  rw [expand_result, Counted.within, Nat.zero_add]
  by_cases h : (unlimitedDefinitions F d.definitions).count ≤ limit
  · rw [if_pos h]
    cases (unlimitedDefinitions F d.definitions).result <;> simp [Except.map, Nat.not_lt.mpr h]
  · rw [if_neg h]
    simp [Except.map, Nat.lt_of_not_le h, eq_comm]

end FragmentTable

/-- The records of a document's expansion aside, its own fragments are all that counts. -/
theorem Document.expand_result (d : Document) (limit : Nat) :
    (d.expand limit).result = ((FragmentTable.ofDocument d).expand limit d).result :=
  Logged.result_tell_bind _ _

end QueryTariff
