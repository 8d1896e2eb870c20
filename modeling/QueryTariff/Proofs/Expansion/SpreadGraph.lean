import QueryTariff.Expansion
import QueryTariff.PageSize

/-!
Which fragments lead to which. A name stands for the first fragment of that name, and a fragment
leads to every defined one that is spread somewhere in it. Where definitions are left out by name,
the other names stand for what they stood for (`fragment?_filter`).
-/

namespace QueryTariff

/-- The names of all spreads, at any depth. -/
def Selection.spreadNames : List Selection → List String
  | [] => []
  | .field _ _ items :: rest => spreadNames items ++ spreadNames rest
  | .spread _ n _ :: rest => n :: spreadNames rest
  | .inlineFragment _ _ _ _ items :: rest => spreadNames items ++ spreadNames rest

namespace Selection

variable {n : String} {items rest : List Selection}

@[simp] theorem mem_spreadNames_field (h : FieldHead) (sp : Span) :
    n ∈ spreadNames (.field h sp items :: rest) ↔ n ∈ spreadNames items ∨ n ∈ spreadNames rest := by
  simp [spreadNames]

@[simp] theorem mem_spreadNames_spread (p : Position) (m : String) (ds : List Directive) :
    n ∈ spreadNames (.spread p m ds :: rest) ↔ n = m ∨ n ∈ spreadNames rest := by
  simp [spreadNames]

@[simp] theorem mem_spreadNames_inlineFragment (p : Position) (on? : Option String)
    (ds : List Directive) (sp : Span) :
    n ∈ spreadNames (.inlineFragment p on? ds sp items :: rest) ↔
      n ∈ spreadNames items ∨ n ∈ spreadNames rest := by
  simp [spreadNames]

theorem spreadNames_append (xs ys : List Selection) :
    spreadNames (xs ++ ys) = spreadNames xs ++ spreadNames ys := by
  induction xs using listInduction with
  | nil => simp [spreadNames]
  | field h sp items rest _ ih => simp [spreadNames, ih]
  | spread p n ds rest ih => simp [spreadNames, ih]
  | inlineFragment p on? ds sp items rest _ ih => simp [spreadNames, ih]

end Selection

namespace Document

/-- The fragment that a name stands for. -/
def fragment? (d : Document) (n : String) : Option Fragment := d.fragments.find? (·.name = n)

/-- The fragment that `a` stands for has a spread of `b` somewhere in it. -/
def Spreads (d : Document) (a b : String) : Prop :=
  ∃ f, d.fragment? a = some f ∧ b ∈ Selection.spreadNames f.body.items

/-- The fragment that `a` stands for leads to another one, which `b` stands for. -/
def Leads (d : Document) (a b : String) : Prop := d.Spreads a b ∧ ∃ g, d.fragment? b = some g

theorem mem_fragments {d : Document} {f : Fragment} :
    f ∈ d.fragments ↔ .fragment f ∈ d.definitions := by
  unfold fragments
  rw [List.mem_filterMap]
  constructor
  · rintro ⟨x, hx, he⟩
    cases x with
    | operation o => cases he
    | fragment g =>
      cases he
      exact hx
  · intro h
    exact ⟨_, h, rfl⟩

theorem mem_definitions_of_fragment? {d : Document} {n : String} {f : Fragment}
    (h : d.fragment? n = some f) : .fragment f ∈ d.definitions :=
  mem_fragments.mp (List.mem_of_find?_eq_some h)

theorem name_of_fragment? {d : Document} {n : String} {f : Fragment}
    (h : d.fragment? n = some f) : f.name = n := by
  simpa using List.find?_some h

theorem fragment?_cons (f : Fragment) (xs : List Definition) (n : String) :
    (⟨.fragment f :: xs⟩ : Document).fragment? n =
      if f.name = n then some f else (⟨xs⟩ : Document).fragment? n := by
  rw [fragment?, fragments, List.filterMap_cons, List.find?_cons]
  by_cases hf : f.name = n <;> simp [hf, fragment?, fragments]

section filter

variable (d : Document) (keep : Definition → Bool)

theorem operations_filter :
    (⟨d.definitions.filter keep⟩ : Document).operations =
      d.operations.filter fun o => keep (.operation o) := by
  rw [operations, operations, List.filterMap_filter, List.filter_filterMap]
  congr
  funext x
  cases x with
  | operation o => cases h : keep (.operation o) <;> simp [Option.filter, h]
  | fragment f => simp

theorem fragments_filter :
    (⟨d.definitions.filter keep⟩ : Document).fragments =
      d.fragments.filter fun f => keep (.fragment f) := by
  rw [fragments, fragments, List.filterMap_filter, List.filter_filterMap]
  congr
  funext x
  cases x with
  | operation o => simp
  | fragment f => cases h : keep (.fragment f) <;> simp [Option.filter, h]

/-- Where fragments are kept by their names, a name stands for the same fragment or for none. -/
theorem fragment?_filter (keepName : String → Bool)
    (h : ∀ f, keep (.fragment f) = keepName f.name) (n : String) :
    (⟨d.definitions.filter keep⟩ : Document).fragment? n =
      if keepName n then d.fragment? n else none := by
  rw [fragment?, fragments_filter, List.find?_filter, fragment?]
  by_cases hn : keepName n
  · rw [if_pos hn]
    congr
    funext f
    by_cases hf : f.name = n <;> simp [h, hf, hn]
  · rw [if_neg hn, List.find?_eq_none]
    intro f _
    by_cases hf : f.name = n <;> simp [h, hf, hn]

end filter

section split

variable {d : Document} {before after : List Definition} {g : Fragment}

theorem fragment?_of_split (h : d.definitions = before ++ .fragment g :: after) (n : String) :
    d.fragment? n = ((⟨before⟩ : Document).fragment? n).or
      ((if g.name = n then some g else none).or ((⟨after⟩ : Document).fragment? n)) := by
  simp only [fragment?, fragments, h, List.filterMap_append, List.find?_append,
    List.filterMap_cons, List.find?_cons]
  by_cases hg : g.name = n <;> simp [hg]

theorem fragment?_mem_before (h : d.definitions = before ++ .fragment g :: after) {f : Fragment}
    (hf : .fragment f ∈ before) : ∃ f₀, d.fragment? f.name = some f₀ ∧ .fragment f₀ ∈ before := by
  have hmem : f ∈ (⟨before⟩ : Document).fragments := mem_fragments.mpr hf
  obtain ⟨f₀, hf₀⟩ : ∃ f₀, (⟨before⟩ : Document).fragment? f.name = some f₀ := by
    rw [← Option.isSome_iff_exists, fragment?, List.find?_isSome]
    exact ⟨f, hmem, by simp⟩
  refine ⟨f₀, ?_, mem_definitions_of_fragment? hf₀⟩
  rw [fragment?_of_split h, hf₀, Option.some_or]

theorem fragment?_eq_self (h : d.definitions = before ++ .fragment g :: after)
    (hnew : ∀ f, .fragment f ∈ before → f.name ≠ g.name) : d.fragment? g.name = some g := by
  have hnone : (⟨before⟩ : Document).fragment? g.name = none := by
    rw [fragment?, List.find?_eq_none]
    intro f hf
    simpa using hnew f (mem_fragments.mp hf)
  rw [fragment?_of_split h, hnone]
  simp

end split

end Document

namespace FragmentTable

theorem get?_add (F : FragmentTable) (f : Fragment) (n : String) :
    (F.add f).get? n = (F.get? n).or (if f.name = n then some f else none) := by
  unfold add
  by_cases hc : F.contains f.name
  · rw [if_pos hc]
    by_cases hn : f.name = n
    · subst hn
      obtain ⟨g, hg⟩ := Option.isSome_iff_exists.mp hc
      simp [hg]
    · simp [hn]
  · rw [if_neg hc, NameMap.get?_insert]
    by_cases hn : f.name = n
    · subst hn
      have hnone : F.get? f.name = none := by simpa [NameMap.contains] using hc
      simp [hnone]
    · simp [hn]

theorem get?_foldl_add (fs : List Fragment) (F : FragmentTable) (n : String) :
    (fs.foldl add F).get? n = (F.get? n).or (fs.find? (·.name = n)) := by
  induction fs generalizing F with
  | nil => simp
  | cons f fs ih =>
    rw [List.foldl_cons, ih, get?_add, Option.or_assoc, List.find?_cons]
    by_cases hn : f.name = n <;> simp [hn]

/-- The table of a document gives for each name the first fragment of that name. -/
theorem get?_ofDocument (d : Document) (n : String) :
    (ofDocument d).get? n = d.fragment? n := by
  unfold ofDocument ofFragments
  rw [get?_foldl_add, NameMap.get?_empty, Option.none_or]
  rfl

end FragmentTable

end QueryTariff
