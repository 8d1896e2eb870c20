import QueryTariff.Estimate
import QueryTariff.Proofs.Expansion.FullExpansion
import Mathlib.Data.List.Chain
import Mathlib.Logic.Relation

/-!
Fragments that lead back to themselves. Where some do, every expansion fails
(`expand_fails_of_cycle`).
-/

namespace QueryTariff

open Selection

namespace Document

variable {d : Document}

/-- From the fragment `n` every way along spreads comes to an end. -/
def Ends (d : Document) (n : String) : Prop := Acc (fun b a => d.Spreads a b) n

theorem ends_of_fragment? {n : String} {f : Fragment} (hf : d.fragment? n = some f)
    (h : ∀ m ∈ spreadNames f.body.items, d.Ends m) : d.Ends n := by
  refine Acc.intro n ?_
  rintro m ⟨g, hg, hm⟩
  rw [hf] at hg
  cases hg
  exact h m hm

theorem ends_of_undefined {n : String} (hn : d.fragment? n = none) : d.Ends n := by
  refine Acc.intro n ?_
  rintro m ⟨g, hg, -⟩
  rw [hn] at hg
  cases hg

/-- Selections that can be expanded have no way round in them. -/
theorem ends_of_itemsExpand {items out : List Selection} (h : d.ItemsExpand items out) :
    ∀ n ∈ spreadNames items, d.Ends n := by
  induction h with
  | nil => simp [spreadNames]
  | field _ _ _ _ ihBody ihRest =>
    intro n hn
    rw [mem_spreadNames_field] at hn
    exact hn.elim (ihBody n) (ihRest n)
  | inlineFragment _ _ _ _ _ _ ihBody ihRest =>
    intro n hn
    rw [mem_spreadNames_inlineFragment] at hn
    exact hn.elim (ihBody n) (ihRest n)
  | undefined _ _ hnone _ ihRest =>
    intro n hn
    rw [mem_spreadNames_spread] at hn
    rcases hn with rfl | hn
    · exact ends_of_undefined hnone
    · exact ihRest n hn
  | spread _ _ hf _ _ ihBody ihRest =>
    intro n hn
    rw [mem_spreadNames_spread] at hn
    rcases hn with rfl | hn
    · exact ends_of_fragment? hf ihBody
    · exact ihRest n hn

/-- A cycle could be gone round from its second name just as well, and so without end. -/
theorem not_cycle_of_ends {n : String} (h : d.Ends n) : ¬ Relation.TransGen d.Spreads n n := by
  induction h with
  | intro n _ ih =>
    intro hcycle
    obtain ⟨m, hnm, hmn⟩ := Relation.TransGen.head'_iff.mp hcycle
    exact ih m hnm (Relation.TransGen.tail' hmn hnm)

theorem ends_of_expands {n : String} {f : Fragment} {ys : List Definition} {xs : List Definition}
    (hf : d.fragment? n = some f) (hmem : .fragment f ∈ xs)
    (h : List.Forall₂ d.DefinitionExpands xs ys) : d.Ends n := by
  obtain ⟨y, hy⟩ := exists_of_mem_forall₂ h hmem
  cases hy with
  | fragment _ hitems => exact ends_of_fragment? hf (ends_of_itemsExpand hitems)

theorem expand_ne_ok_of_cycle {n : String} (h : Relation.TransGen d.Leads n n) (limit : Nat)
    (o : Document) : (d.expand limit).result ≠ .ok o := by
  intro hok
  have hround : Relation.TransGen d.Spreads n n := Relation.TransGen.mono (fun _ _ hab => hab.1) _ _ h
  obtain ⟨m, ⟨f, hf, -⟩, -⟩ := Relation.TransGen.head'_iff.mp hround
  have hends := ends_of_expands hf (mem_definitions_of_fragment? hf) (fullExpansion_of_expand hok)
  exact not_cycle_of_ends hends hround

end Document

namespace Estimator

/-- Where a document cannot be expanded, neither score of it can be told, in whatever way the
document is read. -/
theorem fails_of_expand {E : Estimator} {d : Document} {e : ExpansionError}
    (h : (d.expand E.maxSelections).result = .error e) :
    (E.estimate d).result = .error (.expansion e) ∧
    ∀ read : Logged EstimateError Document, read.result = .ok d →
      (read >>= fun d => E.expand d >>= E.costOfExpanded).result = .error (.expansion e) ∧
      (read >>= fun d => E.expand d >>= E.maxNodeOfExpanded).result = .error (.expansion e) := by
  have hexp : (E.expand d).result = .error (.expansion e) := by
    rw [expand, Logged.result_mapError, h]
    rfl
  have hscore (read : Logged EstimateError Document) (hread : read.result = .ok d)
      (score : Document → Logged EstimateError Nat) :
      (read >>= fun d => E.expand d >>= score).result = .error (.expansion e) := by
    rw [Logged.result_bind, hread, Logged.ok_bind, Logged.result_bind, hexp, Logged.error_bind]
  refine ⟨?_, fun read hread => ⟨hscore read hread _, hscore read hread _⟩⟩
  rw [estimate, Logged.result_bind, hexp, Logged.error_bind]

theorem result_parse {text : String} {d : Document} (h : Document.parse text = .ok d) :
    (parse text).result = .ok d := by
  rw [parse, Logged.result_silent, h]
  rfl

end Estimator

namespace Document

/-- Where fragments lead back to themselves, every expansion fails, whatever its limit and whether
or not an operation has to do with them, and so does every estimate, also of one score alone and in
whatever way the document is read. -/
theorem expand_fails_of_cycle (d : Document) (h : ∃ n, Relation.TransGen d.Leads n n) :
    (∀ limit, (∃ c, (d.expand limit).result = .error (.cyclic c)) ∨
      (d.expand limit).result = .error (.tooManySelections limit)) ∧
    ∀ E : Estimator, ∃ e, (E.estimate d).result = .error (.expansion e) ∧
      (∀ text, Document.parse text = .ok d →
        (E.cost text).result = .error (.expansion e) ∧
        (E.maxNode text).result = .error (.expansion e)) ∧
      ∀ read : Logged EstimateError Document, read.result = .ok d →
        (read >>= fun d => E.expand d >>= E.costOfExpanded).result = .error (.expansion e) ∧
        (read >>= fun d => E.expand d >>= E.maxNodeOfExpanded).result = .error (.expansion e) := by
  obtain ⟨n, hn⟩ := h
  have herror (limit : Nat) : ∃ e, (d.expand limit).result = .error e := by
    cases hr : (d.expand limit).result with
    | error e => exact ⟨e, rfl⟩
    | ok o => exact absurd hr (expand_ne_ok_of_cycle hn limit o)
  refine ⟨fun limit => ?_, fun E => ?_⟩
  · obtain ⟨e, he⟩ := herror limit
    cases e with
    | cyclic c => exact .inl ⟨c, he⟩
    | tooManySelections k =>
      have hk := he
      rw [expand_result, FragmentTable.expand_eq_tooMany] at hk
      rw [hk.2] at he
      exact .inr he
  · obtain ⟨e, he⟩ := herror E.maxSelections
    obtain ⟨hestimate, hread⟩ := Estimator.fails_of_expand he
    exact ⟨e, hestimate, fun text htext => hread _ (Estimator.result_parse htext), hread⟩

end Document

namespace Sample

/-- Two fragments that lead to each other, one of them from within a field, and an operation that
has to do with neither. -/
def roundaboutText : String := "{ a } fragment F on T { x { ...G } } fragment G on U { ...F }"

/-- What the text is read as; all of it stands in one line. -/
def roundabout : Document where
  definitions := [
    .operation ⟨none, ⟨across 1 5, [.field (named "a" 3) (across 3 3) []]⟩⟩,
    .fragment ⟨column 7, "F", "T", [], ⟨across 23 36,
      [.field (named "x" 25) (across 27 34) [.spread (column 32) "G" []]]⟩⟩,
    .fragment ⟨column 38, "G", "U", [], ⟨across 54 61, [.spread (column 59) "F" []]⟩⟩]
where
  column (n : Nat) : Position := ⟨1, n⟩
  across (opening closing : Nat) : Span := ⟨column opening, column closing⟩
  named (name : String) (n : Nat) : FieldHead := ⟨column n, none, name, [], []⟩

theorem parse_roundabout : Document.parse roundaboutText = .ok roundabout := by
  rw [← Logged.toOption_eq_some_iff]
  decide +kernel

theorem roundabout_cycle : Relation.TransGen roundabout.Leads "F" "F" := by
  have hF : roundabout.Leads "F" "G" := ⟨⟨_, rfl, by simp⟩, _, rfl⟩
  have hG : roundabout.Leads "G" "F" := ⟨⟨_, rfl, by simp⟩, _, rfl⟩
  exact .tail (.single hF) hG

/-- The text can be read, and still neither of its scores can be told. -/
theorem expand_roundabout :
    (∃ n, Relation.TransGen roundabout.Leads n n) ∧
    Document.parse roundaboutText = .ok roundabout ∧
    (∀ limit, (∃ c, (roundabout.expand limit).result = .error (.cyclic c)) ∨
      (roundabout.expand limit).result = .error (.tooManySelections limit)) ∧
    ∀ E : Estimator, ∃ e, (E.estimate roundabout).result = .error (.expansion e) ∧
      (E.cost roundaboutText).result = .error (.expansion e) ∧
      (E.maxNode roundaboutText).result = .error (.expansion e) := by
  have hcycle : ∃ n, Relation.TransGen roundabout.Leads n n := ⟨"F", roundabout_cycle⟩
  obtain ⟨hlimits, hestimates⟩ := Document.expand_fails_of_cycle roundabout hcycle
  refine ⟨hcycle, parse_roundabout, hlimits, fun E => ?_⟩
  obtain ⟨e, hestimate, hscores, -⟩ := hestimates E
  exact ⟨e, hestimate, hscores roundaboutText parse_roundabout⟩

example : (roundabout.expand 10).result = .error (.cyclic ["F", "G", "F"]) ∧
    (roundabout.expand 3).result = .error (.tooManySelections 3) := by
  cbv

end Sample

end QueryTariff
