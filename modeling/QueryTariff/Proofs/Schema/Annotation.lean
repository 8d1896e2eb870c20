import QueryTariff.Schema.Annotation
import QueryTariff.Parser.Value

/-!
Annotations say what written types say. An annotation has the text of the type it is made from, and
says of each layer whether it may be null; two types that read the same have the same annotation, if
their names can be told from the marks around them (`ofTypeRef_faithful`).

That a text determines the annotation is shown for texts with something behind them. What stands
behind the text of an inner layer is the bracket that ends the layer around it, and this bracket is
where the inner text ends.
-/

namespace QueryTariff

namespace TypeRef

/-- Whether the outermost layer is an exclamation mark. -/
def isNonNull : TypeRef → Bool
  | nonNull _ => true
  | _ => false

/-- No exclamation mark follows directly on another. -/
def MarkedOnce : TypeRef → Prop
  | named _ => True
  | list t => t.MarkedOnce
  | nonNull t => t.isNonNull = false ∧ t.MarkedOnce

instance decidableMarkedOnce : ∀ t : TypeRef, Decidable t.MarkedOnce
  | named _ => inferInstanceAs (Decidable True)
  | list t => decidableMarkedOnce t
  | nonNull t => @instDecidableAnd _ _ _ (decidableMarkedOnce t)

/-- The name inside all layers. -/
def baseName : TypeRef → String
  | named n => n
  | list t => t.baseName
  | nonNull t => t.baseName

/-- Whether an exclamation mark follows directly on the name. -/
def nameIsNonNull : TypeRef → Bool
  | named _ => false
  | list t => t.nameIsNonNull
  | nonNull (named _) => true
  | nonNull t => t.nameIsNonNull

end TypeRef

/-- The characters that tell the layers of a type apart in its text. -/
def layerMarks : List Char := ['[', ']', '!']

/-- A name in which none of them occurs. -/
def FreeOfMarks (n : String) : Prop := ∀ c ∈ n.toList, c ∉ layerMarks

-- Decided by a look at the name, not by one at every character there is.
instance (n : String) : Decidable (FreeOfMarks n) :=
  List.decidableBAll (· ∉ layerMarks) n.toList

namespace Annotation

/-- An annotation says what a type says, and all its layers have one location. -/
structure Represents (location : Location) (t : TypeRef) (a : Annotation) : Prop where
  text : a.text = t.text
  name : a.innermost.name = t.baseName
  nameNullable : a.innermost.nullable = false ↔ t.nameIsNonNull = true
  nullable : a.nullable = false ↔ t.isNonNull = true
  locations : ∀ layer ∈ a.layers, layer.location = location

/-! ### From types to annotations -/

section
variable (location : Location)

/-- An outermost layer that must not be null reads as one more exclamation mark, so the type itself
must not end with one. -/
theorem text_ofTypeRefAs (nullable : Bool) {t : TypeRef} (ht : t.MarkedOnce)
    (hend : nullable = false → t.isNonNull = false) :
    (ofTypeRefAs location nullable t).text = t.text ++ if nullable then "" else "!" := by
  induction t generalizing nullable with
  | named n => rfl
  | list t ih =>
    have hinner := ih true ht nofun
    rw [ofTypeRefAs, text, hinner, TypeRef.text]
    simp
  | nonNull t ih =>
    have hinner := ih false ht.2 fun _ => ht.1
    cases nullable with
    | true =>
      rw [ofTypeRefAs, hinner, TypeRef.text]
      simp
    | false => exact absurd (hend rfl) nofun

theorem nullable_ofTypeRefAs (nullable : Bool) (t : TypeRef) :
    (ofTypeRefAs location nullable t).nullable = (nullable && !t.isNonNull) := by
  induction t generalizing nullable with
  | named n => simp [ofTypeRefAs, Annotation.nullable, TypeRef.isNonNull]
  | list t => simp [ofTypeRefAs, Annotation.nullable, TypeRef.isNonNull]
  | nonNull t ih => simp [ofTypeRefAs, ih, TypeRef.isNonNull]

theorem innermost_ofTypeRef (t : TypeRef) :
    (ofTypeRef location t).innermost = ⟨location, !t.nameIsNonNull, t.baseName⟩ := by
  induction t with
  | named n => rfl
  | list t ih => exact ih
  | nonNull t ih =>
    -- A list keeps the mark to itself, and a second mark adds nothing.
    cases t with
    | named n => rfl
    | list t => exact ih
    | nonNull t => exact ih

theorem location_of_mem_layers (nullable : Bool) (t : TypeRef) :
    ∀ layer ∈ (ofTypeRefAs location nullable t).layers, layer.location = location := by
  induction t generalizing nullable with
  | named n => simp [ofTypeRefAs, layers, Annotation.location]
  | list t ih =>
    intro layer hlayer
    rcases List.mem_cons.mp hlayer with rfl | hinner
    · rfl
    · exact ih true layer hinner
  | nonNull t ih => exact ih false

theorem represents_ofTypeRef {t : TypeRef} (ht : t.MarkedOnce) :
    Represents location t (ofTypeRef location t) where
  text := by
    have h := text_ofTypeRefAs location true ht nofun
    rwa [if_pos rfl, String.append_empty] at h
  name := by rw [innermost_ofTypeRef]
  nameNullable := by simp [innermost_ofTypeRef]
  nullable := by simp [ofTypeRef, nullable_ofTypeRefAs]
  locations := location_of_mem_layers location true t

end

/-! ### From texts back to annotations -/

/-- Whether a text is empty or starts with one of some characters. -/
def StartsIn (marks : List Char) : List Char → Prop
  | [] => True
  | c :: _ => c ∈ marks

/-- The mark of a layer that must not be null. -/
def nullMark (nullable : Bool) : List Char := if nullable then [] else ['!']

section
variable {r s : List Char}

theorem text_named_append (location : Location) (nullable : Bool) (n : String) (r : List Char) :
    (named ⟨location, nullable, n⟩).text.toList ++ r = n.toList ++ (nullMark nullable ++ r) := by
  cases nullable <;> simp [text, NamedAnnotation.text, nullMark]

theorem text_list_append (location : Location) (nullable : Bool) (inner : Annotation)
    (r : List Char) :
    (list location nullable inner).text.toList ++ r =
      '[' :: (inner.text.toList ++ ']' :: (nullMark nullable ++ r)) := by
  cases nullable <;> simp [text, nullMark]

theorem startsIn_nullMark (nullable : Bool) (hr : StartsIn [']'] r) :
    StartsIn layerMarks (nullMark nullable ++ r) := by
  cases nullable with
  | true =>
    cases r with
    | nil => trivial
    | cons c r =>
      have hc : c = ']' := List.mem_singleton.mp hr
      simp [nullMark, StartsIn, layerMarks, hc]
  | false => simp [nullMark, StartsIn, layerMarks]

theorem nullMark_append_inj {p q : Bool} (hr : StartsIn [']'] r) (hs : StartsIn [']'] s)
    (h : nullMark p ++ r = nullMark q ++ s) : p = q ∧ r = s := by
  cases p with
  | true =>
    cases q with
    | true => exact ⟨rfl, h⟩
    | false =>
      have hrest : r = '!' :: s := h
      simp [hrest, StartsIn] at hr
  | false =>
    cases q with
    | true =>
      have hrest : '!' :: r = s := h
      simp [← hrest, StartsIn] at hs
    | false => exact ⟨rfl, (List.cons.inj h).2⟩

/-- A name ends at the first mark. -/
theorem name_append_inj {n m : List Char} (hn : ∀ c ∈ n, c ∉ layerMarks)
    (hm : ∀ c ∈ m, c ∉ layerMarks) (hr : StartsIn layerMarks r) (hs : StartsIn layerMarks s)
    (h : n ++ r = m ++ s) : n = m ∧ r = s := by
  induction n generalizing m with
  | nil =>
    cases m with
    | nil => exact ⟨rfl, h⟩
    | cons d m =>
      have hrest : r = d :: (m ++ s) := h
      rw [hrest] at hr
      exact absurd hr (hm d List.mem_cons_self)
  | cons c n ih =>
    cases m with
    | nil =>
      have hrest : c :: (n ++ r) = s := h
      rw [← hrest] at hs
      exact absurd hs (hn c List.mem_cons_self)
    | cons d m =>
      obtain ⟨hhead, htail⟩ := List.cons.inj h
      obtain ⟨-, hn'⟩ := List.forall_mem_cons.mp hn
      obtain ⟨-, hm'⟩ := List.forall_mem_cons.mp hm
      obtain ⟨hname, hrest⟩ := ih hn' hm' htail
      exact ⟨by rw [hhead, hname], hrest⟩

/-- The text of a name does not start like that of a list. -/
theorem name_append_ne_bracket {n : List Char} {nullable : Bool} (hn : ∀ c ∈ n, c ∉ layerMarks)
    (hr : StartsIn [']'] r) : n ++ (nullMark nullable ++ r) ≠ '[' :: s := by
  intro h
  cases n with
  | nil =>
    cases nullable with
    | true =>
      have hrest : r = '[' :: s := h
      simp [hrest, StartsIn] at hr
    | false => exact absurd (List.cons.inj h).1 (by decide)
  | cons c n =>
    have hmark : c ∈ layerMarks := by simp [(List.cons.inj h).1, layerMarks]
    exact hn c List.mem_cons_self hmark

/-- A text with nothing behind it, or with the end of a list, tells the annotation that it starts
with and where that annotation ends. -/
theorem text_append_inj {location : Location} {a b : Annotation}
    (ha : ∀ layer ∈ a.layers, layer.location = location)
    (hb : ∀ layer ∈ b.layers, layer.location = location)
    (hna : FreeOfMarks a.innermost.name) (hnb : FreeOfMarks b.innermost.name)
    (hr : StartsIn [']'] r) (hs : StartsIn [']'] s)
    (h : a.text.toList ++ r = b.text.toList ++ s) : a = b ∧ r = s := by
  induction a generalizing b r s with
  | named a =>
    obtain ⟨la, p, n⟩ := a
    rw [text_named_append] at h
    cases b with
    | named b =>
      obtain ⟨lb, q, m⟩ := b
      rw [text_named_append] at h
      obtain ⟨hname, htail⟩ :=
        name_append_inj hna hnb (startsIn_nullMark p hr) (startsIn_nullMark q hs) h
      obtain ⟨hnull, hrest⟩ := nullMark_append_inj hr hs htail
      have hlocation : la = lb := (ha _ List.mem_cons_self).trans (hb _ List.mem_cons_self).symm
      have hn : n = m := String.toList_inj.mp hname
      exact ⟨by rw [hlocation, hnull, hn], hrest⟩
    | list lb q b =>
      rw [text_list_append] at h
      exact absurd h (name_append_ne_bracket hna hr)
  | list la p a ih =>
    rw [text_list_append] at h
    cases b with
    | named b =>
      obtain ⟨lb, q, m⟩ := b
      rw [text_named_append] at h
      exact absurd h.symm (name_append_ne_bracket hnb hs)
    | list lb q b =>
      rw [text_list_append] at h
      -- Behind both inner texts stands the bracket that ends the list.
      have hclosed : ∀ rest, StartsIn [']'] (']' :: rest) := fun _ => List.mem_cons_self
      obtain ⟨hla, ha'⟩ := List.forall_mem_cons.mp ha
      obtain ⟨hlb, hb'⟩ := List.forall_mem_cons.mp hb
      obtain ⟨hinner, htail⟩ :=
        ih ha' hb' hna hnb (hclosed _) (hclosed _) (List.cons.inj h).2
      obtain ⟨hnull, hrest⟩ := nullMark_append_inj hr hs (List.cons.inj htail).2
      have hlocation : la = lb := hla.trans hlb.symm
      exact ⟨by rw [hlocation, hnull, hinner], hrest⟩

end

theorem Represents.eq_of_text_eq {location : Location} {t u : TypeRef} {a b : Annotation}
    (ha : Represents location t a) (hb : Represents location u b) (ht : FreeOfMarks t.baseName)
    (hu : FreeOfMarks u.baseName) (h : t.text = u.text) : a = b := by
  have htext : a.text.toList ++ [] = b.text.toList ++ [] := by rw [ha.text, hb.text, h]
  have hnothing : StartsIn [']'] [] := trivial
  rw [← ha.name] at ht
  rw [← hb.name] at hu
  exact (text_append_inj ha.locations hb.locations ht hu hnothing hnothing htext).1

/-- The annotation of a type says what the type says, however deep it is nested; types that read
the same have the same annotation. -/
theorem ofTypeRef_faithful (location : Location) (t : TypeRef) (ht : t.MarkedOnce) :
    Represents location t (ofTypeRef location t) ∧
      ∀ u : TypeRef, u.MarkedOnce → FreeOfMarks t.baseName → FreeOfMarks u.baseName →
        t.text = u.text → ofTypeRef location t = ofTypeRef location u := by
  have hrepresents := represents_ofTypeRef location ht
  refine ⟨hrepresents, fun u hu hnameT hnameU h => ?_⟩
  exact hrepresents.eq_of_text_eq (represents_ofTypeRef location hu) hnameT hnameU h

end Annotation

namespace Sample

open Annotation

/-- Rows of items: each item is there, a row may be missing, and the whole is there. -/
def rows : TypeRef := .nonNull (.list (.list (.nonNull (.named "Item"))))

/-- Blanks in the text that the type is read from leave no trace. -/
theorem ofTypeRef_rows :
    rows.MarkedOnce ∧ FreeOfMarks rows.baseName ∧
    Represents .builtIn rows (ofTypeRef .builtIn rows) ∧
    rows.text = "[[Item!]]!" ∧ rows.nameIsNonNull = true ∧ rows.isNonNull = true ∧
    ∃ u, ((Parser.typeRef 2).run "[ [Item !] ]\n!").toOption = some u ∧ u.text = rows.text ∧
      ofTypeRef .builtIn rows = ofTypeRef .builtIn u := by
  have hmarked : rows.MarkedOnce := by decide
  have hname : FreeOfMarks rows.baseName := by decide
  obtain ⟨hrepresents, hsame⟩ := ofTypeRef_faithful .builtIn rows hmarked
  refine ⟨hmarked, hname, hrepresents, by decide, rfl, rfl, rows, ?_, rfl, ?_⟩
  · decide +kernel
  · exact hsame rows hmarked hname hname rfl

/-- A name with a mark in it reads like another type. -/
example : (TypeRef.named "Item!").text = (TypeRef.nonNull (.named "Item")).text ∧
    ofTypeRef .builtIn (.named "Item!") ≠ ofTypeRef .builtIn (.nonNull (.named "Item")) := by
  decide

end Sample

end QueryTariff
