import QueryTariff.Proofs.Estimate.Alike

/-!
Fields with smaller pages. A field without a page size multiplies by one, so it stands below any
field with a page that is not empty. Where every field stands below its counterpart, so do the
multipliers (`productAround_le`) and the units of cost (`units_le_of_alike`); the objects do so too
where no field is passed over only on the other side (`objects_le_of_alike`).
-/

namespace QueryTariff

/-- The first page size multiplies by no more than the second, and there is a second one if there is
a first. -/
inductive PageAtMost : Option Nat → Option Nat → Prop
  | absent : PageAtMost none none
  | unpaged {q : Nat} : 1 ≤ q → PageAtMost none (some q)
  | page {p q : Nat} : p ≤ q → PageAtMost (some p) (some q)

namespace PageAtMost

theorem refl : ∀ p? : Option Nat, PageAtMost p? p?
  | none => .absent
  | some p => .page (Nat.le_refl p)

theorem ofRel {p? q? : Option Nat} (h : Option.Rel (· ≤ ·) p? q?) : PageAtMost p? q? := by
  cases h with
  | none => exact .absent
  | some hpq => exact .page hpq

end PageAtMost

/-- Fields of one name, the first with at most the page of the second, each under its bindings. -/
structure FieldHead.PageAtMost (V V' : Bindings) (h h' : FieldHead) : Prop where
  name : h'.name = h.name
  page : QueryTariff.PageAtMost (pageSize V h.arguments) (pageSize V' h'.arguments)

variable {V V' : Bindings}

theorem prod_pages_le {hs hs' : List FieldHead}
    (h : List.Forall₂ (FieldHead.PageAtMost V V') hs hs') :
    (hs.filterMap fun h => pageSize V h.arguments).prod ≤
      (hs'.filterMap fun h => pageSize V' h.arguments).prod := by
  induction h with
  | nil => simp
  | @cons head head' hs hs' hhead _ ih =>
    have hpage := hhead.page
    rw [List.filterMap_cons, List.filterMap_cons]
    generalize pageSize V head.arguments = p? at hpage ⊢
    generalize pageSize V' head'.arguments = q? at hpage ⊢
    cases hpage with
    | absent => exact ih
    | unpaged hq =>
      rw [List.prod_cons]
      exact Nat.le_trans ih (Nat.le_mul_of_pos_left _ hq)
    | page hpq =>
      rw [List.prod_cons, List.prod_cons]
      exact Nat.mul_le_mul hpq ih

theorem productAround_le {above above' : List Enclosure}
    (h : List.Forall₂ (Enclosure.Alike (FieldHead.PageAtMost V V')) above above') :
    productAround V above ≤ productAround V' above' :=
  prod_pages_le (fieldsAround_of_alike h)

namespace Occurrence

variable {f f' : Occurrence}

theorem units_le_of_alike (h : Occurrence.Alike (FieldHead.PageAtMost V V') f f') (S : Schema)
    {w w' : Weights} (hw : ∀ type, w.weight type ≤ w'.weight type) :
    f.units S V w ≤ f'.units S V' w' := by
  have hmultiplier : f.multiplier V ≤ f'.multiplier V' := productAround_le h.above
  have hweight : f.weight S w ≤ f'.weight S w' := by
    rw [weight, weight, h.returnType? FieldHead.PageAtMost.name S]
    cases f.returnType? S with
    | none => exact Nat.le_refl 0
    | some t => exact hw t.name
  have hpage : QueryTariff.PageAtMost (f.pageSize? V) (f'.pageSize? V') := h.head.page
  rw [units, units, h.isUndefined FieldHead.PageAtMost.name S]
  generalize f.pageSize? V = p? at hpage ⊢
  generalize f'.pageSize? V' = q? at hpage ⊢
  cases hpage with
  | absent => exact Nat.le_refl 0
  | unpaged _ => exact Nat.zero_le _
  | page hpq =>
    have hpages := Nat.mul_le_mul (Nat.mul_le_mul hweight hpq) hmultiplier
    dsimp only
    split_ifs
    · exact Nat.le_refl 0
    · exact Nat.add_le_add hmultiplier hpages

theorem objects_le_of_alike (h : Occurrence.Alike (FieldHead.PageAtMost V V') f f') (S : Schema)
    (hrepeats : f'.pageSize? V' = none → f'.repeatsObjects V' = true →
      f.repeatsObjects V = true) :
    f.objects S V ≤ f'.objects S V' := by
  have hmultiplier : f.multiplier V ≤ f'.multiplier V' := productAround_le h.above
  have hpage : QueryTariff.PageAtMost (f.pageSize? V) (f'.pageSize? V') := h.head.page
  rw [objects, objects, h.returnType? FieldHead.PageAtMost.name S]
  by_cases hobject : (f.returnType? S).any NamedType.isObject = true
  · rw [if_pos hobject, if_pos hobject]
    generalize f.pageSize? V = p? at hpage ⊢
    generalize f'.pageSize? V' = q? at hpage hrepeats ⊢
    cases hpage with
    | absent =>
      have hrepeats := hrepeats rfl
      dsimp only
      split_ifs with hf hf' hf'
      · exact Nat.le_refl 0
      · exact Nat.zero_le _
      · exact absurd (hrepeats hf') hf
      · exact hmultiplier
    | @unpaged q hq =>
      -- The page of the counterpart has room for the one object that an unpaged field adds.
      have hpaged : f.multiplier V ≤ q * f'.multiplier V' :=
        Nat.le_trans hmultiplier (Nat.le_mul_of_pos_left _ hq)
      dsimp only
      split_ifs
      · exact Nat.zero_le _
      · exact hpaged
    | page hpq => exact Nat.mul_le_mul hpq hmultiplier
  · rw [if_neg hobject]
    exact Nat.zero_le _

end Occurrence

end QueryTariff
