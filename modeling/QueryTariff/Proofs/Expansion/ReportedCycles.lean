import QueryTariff.Proofs.Expansion.Cycles

/-!
The cycles that failing expansions report. A fragment is on the path of its own selections by name
only, and the name may stand for an earlier fragment, so the first step of a reported cycle need not
be one that expansion would go round (`reported_cycle_iff`).
-/

namespace QueryTariff

open Selection

/-- Names of fragments, the first of them spread in `items` and each other one in the fragment
before it. -/
inductive Document.Trail (d : Document) : List Selection → List String → Prop
  | last {items : List Selection} {n : String} : n ∈ spreadNames items → d.Trail items [n]
  | step {items : List Selection} {n : String} {f : Fragment} {names : List String} :
    n ∈ spreadNames items → d.fragment? n = some f → d.Trail f.body.items names →
    d.Trail items (n :: names)

namespace Document.Trail

variable {d : Document} {items : List Selection} {names : List String}

theorem mono {items' : List Selection} (h : d.Trail items names)
    (hsub : ∀ n ∈ spreadNames items, n ∈ spreadNames items') : d.Trail items' names := by
  cases h with
  | last hn => exact .last (hsub _ hn)
  | step hn hf htrail => exact .step (hsub _ hn) hf htrail

theorem head_mem (h : d.Trail items names) : ∀ n ∈ names.head?, n ∈ spreadNames items := by
  intro n hn
  cases h with
  | last hm =>
    cases hn
    exact hm
  | step hm _ _ =>
    cases hn
    exact hm

theorem spreads_head {a : String} {f : Fragment} (h : d.Trail f.body.items names)
    (hf : d.fragment? a = some f) : ∀ n ∈ names.head?, d.Spreads a n := by
  intro n hn
  exact ⟨f, hf, h.head_mem n hn⟩

theorem isChain (h : d.Trail items names) : names.IsChain d.Spreads := by
  induction h with
  | last => exact .singleton _
  | step _ hf htrail ih => exact ih.cons (htrail.spreads_head hf)

end Document.Trail

namespace Expansion

/-- The cycle `c` is where a trail from `items` leads back to the path or to itself. -/
def Closes (d : Document) (path : List String) (items : List Selection) (c : List String) : Prop :=
  ∃ names n, d.Trail items (names ++ [n]) ∧ n ∈ path ++ names ∧ c = cycleAt (path ++ names) n

theorem Closes.mono {d : Document} {path c : List String} {items items' : List Selection}
    (h : Closes d path items c) (hsub : ∀ n ∈ spreadNames items, n ∈ spreadNames items') :
    Closes d path items' c := by
  obtain ⟨names, n, htrail, hn⟩ := h
  exact ⟨names, n, htrail.mono hsub, hn⟩

/-- A reported cycle is one that a trail closes. -/
theorem closes_of_unlimited (d : Document) (path : List String) (items : List Selection)
    (c : List String)
    (h : (unlimited (FragmentTable.ofDocument d) path items).result = .error c) :
    Closes d path items c := by
  induction path, items using unlimited.induct (FragmentTable.ofDocument d) with
  | case1 path =>
    rw [unlimited] at h
    cases h
  | case2 path head sp body rest ihBody ihRest =>
    rw [unlimited] at h
    rcases Counted.node_eq_error h with h | h
    · exact (ihBody h).mono (by simp +contextual)
    · exact (ihRest h).mono (by simp +contextual)
  | case3 path p on? ds sp body rest ihBody ihRest =>
    rw [unlimited] at h
    rcases Counted.node_eq_error h with h | h
    · exact (ihBody h).mono (by simp +contextual)
    · exact (ihRest h).mono (by simp +contextual)
  | case4 path p m ds rest hf ih =>
    rw [unlimited_undefined p ds rest hf] at h
    rcases Counted.node_eq_error h with h | h
    · cases h
    · exact (ih h).mono (by simp +contextual)
  | case5 path p m ds rest f hf hp =>
    rw [unlimited_cyclic p ds rest hf hp] at h
    cases h
    exact ⟨[], m, .last (by simp), by simpa using hp, by simp⟩
  | case6 path p m ds rest f hf hp ihBody ihRest =>
    rw [unlimited_spread p ds rest hf hp] at h
    rw [FragmentTable.get?_ofDocument] at hf
    rcases Counted.node_eq_error h with h | h
    -- The name moves from the end of the path to the start of the trail.
    · obtain ⟨names, n, htrail, hn, hc⟩ := ihBody h
      refine ⟨m :: names, n, .step (by simp) hf htrail, ?_, ?_⟩
      · simpa using hn
      · simpa using hc
    · exact (ihRest h).mono (by simp +contextual)

theorem cycleAt_suffix (path : List String) (n : String) : cycleAt path n <:+ path ++ [n] := by
  obtain ⟨before, h⟩ := List.dropWhile_suffix (l := path) (fun m => decide (m ≠ n))
  exact ⟨before, by rw [cycleAt, ← List.append_assoc, h]⟩

theorem cycleAt_cons (path : List String) (m n : String) :
    cycleAt (m :: path) n = if m = n then m :: (path ++ [n]) else cycleAt path n := by
  unfold cycleAt
  by_cases h : m = n <;> simp [h]

theorem transGen_of_isChain_cycleAt {r : String → String → Prop} {path : List String} {n : String}
    (hn : n ∈ path) (h : (cycleAt path n).IsChain r) : Relation.TransGen r n n := by
  induction path with
  | nil => simp at hn
  | cons m path ih =>
    rw [cycleAt_cons] at h
    by_cases hm : m = n
    · rw [if_pos hm] at h
      subst hm
      have hstart : (m :: path).IsChain r := List.IsChain.left_of_append h
      have hclosed : ((m :: path) ++ [m]).IsChain r := h
      have hlast := hclosed.rel_getLast_head_of_append (by simp) (by simp)
      have hway := List.relationReflTransGen_of_exists_isChain_cons path hstart rfl
      exact Relation.TransGen.tail' hway hlast
    · rw [if_neg hm] at h
      exact ih ((List.mem_cons.mp hn).resolve_left (Ne.symm hm)) h

end Expansion

namespace Document

variable {d : Document}

/-- Some fragment named `a`, the first or not, has a spread of `b`. -/
def Mentions (d : Document) (a b : String) : Prop :=
  ∃ f ∈ d.fragments, f.name = a ∧ b ∈ spreadNames f.body.items

theorem mentions_of_spreads {a b : String} (h : d.Spreads a b) : d.Mentions a b := by
  obtain ⟨f, hf, hb⟩ := h
  exact ⟨f, List.mem_of_find?_eq_some hf, name_of_fragment? hf, hb⟩

end Document

namespace Expansion

theorem head?_cycleAt {path : List String} {n : String} (hn : n ∈ path) :
    (cycleAt path n).head? = some n := by
  induction path with
  | nil => simp at hn
  | cons m path ih =>
    rw [cycleAt_cons]
    by_cases hm : m = n
    · simp [hm]
    · rw [if_neg hm]
      exact ih ((List.mem_cons.mp hn).resolve_left (Ne.symm hm))

theorem isChain_cycleAt {d : Document} {items : List Selection} {names : List String} {n : String}
    (htrail : d.Trail items (names ++ [n])) : (cycleAt names n).IsChain d.Spreads :=
  htrail.isChain.suffix (cycleAt_suffix names n)

theorem isChain_of_operation {d : Document} {o : Operation} {c : List String}
    (h : (unlimitedDefinition (FragmentTable.ofDocument d) (.operation o)).result = .error c) :
    c.IsChain d.Spreads := by
  rcases Counted.result_bind_eq_error.mp h with h | ⟨_, _, h⟩
  · obtain ⟨names, n, htrail, -, rfl⟩ := closes_of_unlimited d [] _ c h
    exact isChain_cycleAt htrail
  · cases h

/-- A cycle that is met in a fragment either does not come back to its name, and then expansion
would go round it, or starts from its name with a trail from its own selections. -/
theorem cycle_of_fragment {d : Document} {g : Fragment} {c : List String}
    (h : (unlimitedDefinition (FragmentTable.ofDocument d) (.fragment g)).result = .error c) :
    (c.IsChain d.Spreads ∧ c.head? ≠ some g.name) ∨
      ∃ names, c = g.name :: names ∧ d.Trail g.body.items names ∧
        (c.IsChain d.Spreads → Relation.TransGen d.Spreads g.name g.name) := by
  rcases Counted.result_bind_eq_error.mp h with h | ⟨_, _, h⟩
  · obtain ⟨names, n, htrail, hn, rfl⟩ := closes_of_unlimited d [g.name] _ c h
    have hround := transGen_of_isChain_cycleAt (r := d.Spreads) hn
    rw [List.singleton_append, cycleAt_cons] at hround ⊢
    by_cases hg : g.name = n
    · subst hg
      rw [if_pos rfl] at hround ⊢
      exact .inr ⟨names ++ [g.name], rfl, htrail, hround⟩
    · have hmem : n ∈ names := by
        rcases List.mem_cons.mp hn with hn | hn
        · exact absurd hn.symm hg
        · exact hn
      rw [if_neg hg, head?_cycleAt hmem]
      exact .inl ⟨isChain_cycleAt htrail, fun heq => hg (Option.some.inj heq).symm⟩
  · cases h

end Expansion

namespace Document

open Expansion

/-- The cycle starts from the fragment `x`, whose name one of the definitions before it has. -/
def StartsRepeated (before : List Definition) (x : Definition) (c : List String) : Prop :=
  ∃ f g, .fragment f ∈ before ∧ x = .fragment g ∧ f.name = g.name ∧ c.head? = some g.name

theorem isChain_mentions {d : Document} {c : List String} (h : c.IsChain d.Spreads) :
    c.IsChain d.Mentions :=
  h.imp fun _ _ => mentions_of_spreads

/-- A cycle that starts from a repeated fragment is not one to go round: the fragment that its name
stands for came before, and its expansion has come to an end. -/
theorem not_isChain_of_startsRepeated {d : Document} {before after done : List Definition}
    {g : Fragment} {c : List String} (hsplit : d.definitions = before ++ .fragment g :: after)
    (hdone : List.Forall₂ d.DefinitionExpands before done)
    (hround : c.IsChain d.Spreads → Relation.TransGen d.Spreads g.name g.name)
    (hstart : StartsRepeated before (.fragment g) c) : ¬ c.IsChain d.Spreads := by
  intro hchain
  obtain ⟨f, g', hf, hg, hname, -⟩ := hstart
  cases hg
  obtain ⟨f₀, hf₀, hmem⟩ := fragment?_mem_before hsplit hf
  rw [hname] at hf₀
  exact not_cycle_of_ends (ends_of_expands hf₀ hmem hdone) (hround hchain)

theorem cycle_worth {d : Document} {before after done : List Definition} {x : Definition}
    {c : List String} (hsplit : d.definitions = before ++ x :: after)
    (hdone : List.Forall₂ d.DefinitionExpands before done)
    (hx : (unlimitedDefinition (FragmentTable.ofDocument d) x).result = .error c) :
    c.IsChain d.Mentions ∧ c.tail.IsChain d.Spreads ∧
      (c.IsChain d.Spreads ↔ ¬ StartsRepeated before x c) := by
  cases x with
  | operation o =>
    have hchain := isChain_of_operation hx
    refine ⟨isChain_mentions hchain, hchain.tail, fun _ => ?_, fun _ => hchain⟩
    rintro ⟨_, _, _, hx, _⟩
    cases hx
  | fragment g =>
    -- The path starts with the name of `g`, also where the name stands for another fragment.
    rcases cycle_of_fragment hx with ⟨hchain, hhead⟩ | ⟨names, rfl, htrail, hround⟩
    · refine ⟨isChain_mentions hchain, hchain.tail, fun _ => ?_, fun _ => hchain⟩
      rintro ⟨_, _, _, hx, _, hc⟩
      cases hx
      exact hhead hc
    · refine ⟨?_, htrail.isChain, ?_, ?_⟩
      · have hg : g ∈ d.fragments := mem_fragments.mpr (by simp [hsplit])
        exact (isChain_mentions htrail.isChain).cons fun n hn =>
          ⟨g, hg, rfl, htrail.head_mem n hn⟩
      · intro hchain hstart
        exact not_isChain_of_startsRepeated hsplit hdone hround hstart hchain
      · intro hstart
        have hnew : ∀ f, .fragment f ∈ before → f.name ≠ g.name :=
          fun f hf hname => hstart ⟨f, g, hf, rfl, hname, rfl⟩
        exact htrail.isChain.cons (htrail.spreads_head (fragment?_eq_self hsplit hnew))

/-- What a reported cycle is worth. Each of its steps stands in some fragment of that name, and all
but the first in the one that the name stands for. The first does too exactly unless the cycle
starts from the fragment at which the expansion fails and its name was taken before. -/
theorem reported_cycle_iff (d : Document) (limit : Nat) (c : List String)
    (h : (d.expand limit).result = .error (.cyclic c)) :
    c.IsChain d.Mentions ∧ c.tail.IsChain d.Spreads ∧
    ∃ before x after, d.definitions = before ++ x :: after ∧
      (∃ o, ((FragmentTable.ofDocument d).expand limit ⟨before⟩).result = .ok o) ∧
      ((FragmentTable.ofDocument d).expand limit ⟨before ++ [x]⟩).result = .error (.cyclic c) ∧
      (c.IsChain d.Spreads ↔ ¬ StartsRepeated before x c) := by
  rw [expand_result, FragmentTable.expand_eq_cyclic] at h
  obtain ⟨hlimit, h⟩ := h
  obtain ⟨before, x, after, done, hsplit, hdone, hle, hx, herror, hcount⟩ :=
    exists_first_failure _ _ c h
  obtain ⟨hmentions, htail, hiff⟩ := cycle_worth hsplit (forall₂_of_unlimited d _ _ hdone) hx
  refine ⟨hmentions, htail, before, x, after, hsplit, ⟨⟨done⟩, ?_⟩, ?_, hiff⟩
  · exact (FragmentTable.expand_eq_ok _ limit ⟨before⟩ ⟨done⟩).mpr ⟨hle.trans hlimit, hdone⟩
  · exact (FragmentTable.expand_eq_cyclic _ limit ⟨before ++ [x]⟩ c).mpr
      ⟨hcount.le.trans hlimit, herror⟩

end Document

namespace Sample

/-- A fragment and a second one of its name that spreads the first. -/
def repeated : Document where
  definitions := [query [select "a" [spread "F"]], fragment "F" "T" [select "x" []],
    fragment "F" "T" [spread "F"]]

theorem expand_repeated : (repeated.expand 10).result = .error (.cyclic ["F", "F"]) := by cbv

/-- The fragment that the reported name stands for has no spread at all. -/
theorem repeated_not_cyclic :
    (repeated.expand 10).result = .error (.cyclic ["F", "F"]) ∧
      ¬ ["F", "F"].IsChain repeated.Spreads := by
  refine ⟨expand_repeated, ?_⟩
  intro h
  obtain ⟨f, hf, hmem⟩ := List.rel_of_isChain_cons_cons h
  have hfirst : repeated.fragment? "F" = some ⟨.start, "F", "T", [], span, [select "x" []]⟩ := rfl
  rw [hfirst] at hf
  cases hf
  simp [select, spreadNames] at hmem

theorem reported_cycle_repeated :
    (repeated.expand 10).result = .error (.cyclic ["F", "F"]) ∧
    ["F", "F"].IsChain repeated.Mentions ∧ ["F"].IsChain repeated.Spreads ∧
    ∃ before x after, repeated.definitions = before ++ x :: after ∧
      (∃ o, ((FragmentTable.ofDocument repeated).expand 10 ⟨before⟩).result = .ok o) ∧
      ((FragmentTable.ofDocument repeated).expand 10 ⟨before ++ [x]⟩).result =
        .error (.cyclic ["F", "F"]) ∧
      (["F", "F"].IsChain repeated.Spreads ↔ ¬ Document.StartsRepeated before x ["F", "F"]) :=
  ⟨expand_repeated, Document.reported_cycle_iff repeated 10 ["F", "F"] expand_repeated⟩

end Sample

end QueryTariff
