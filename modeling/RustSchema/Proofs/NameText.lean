/-
  RustSchema.Proofs.NameText — a written name reads back as the name.

  The text of a name is its segments and its identifier with double colons between them, and
  two more colons in front when it is absolute (`toList_text`). Where none of these parts has
  a colon, cutting at the double colons gives them back (`pieces_intercalate`); and only a
  relative path that begins with an empty segment looks like an absolute one
  (`parse?_text`).
-/

import RustSchema.ModPath

namespace RustSchema.QualName

/-- The segments of the path and the identifier. -/
def parts (name : QualName) : List String := name.path.segments ++ [name.ident]

def colons : List Char := [':', ':']

/-! ## Writing -/

theorem intercalate_parts (segments : List String) (ident : String) :
    "::".intercalate (segments ++ [ident]) =
      if segments = [] then ident else "::".intercalate segments ++ "::" ++ ident := by
  by_cases h : segments = []
  · simp [h]
  · rw [if_neg h, String.intercalate_append_of_ne_nil h (by simp), String.intercalate_singleton]

theorem text_eq (name : QualName) :
    name.text = (if name.path.absolute then "::" else "") ++ "::".intercalate name.parts := by
  obtain ⟨⟨absolute, segments⟩, ident⟩ := name
  rw [parts, intercalate_parts]
  by_cases h : segments = [] <;> cases absolute <;>
    simp [text, ModPath.text, ModPath.isEmpty, h, String.append_assoc]

theorem toList_text (name : QualName) :
    name.text.toList = (if name.path.absolute then colons else []) ++
      colons.intercalate (name.parts.map String.toList) := by
  rw [text_eq, String.toList_append, String.toList_intercalate]
  cases name.path.absolute <;> rfl

theorem mem_intercalate {c : Char} {sep : List Char} {ps : List (List Char)}
    (h : c ∈ sep.intercalate ps) : c ∈ sep ∨ ∃ p ∈ ps, c ∈ p := by
  induction ps with
  | nil => simp at h
  | cons p ps ih =>
    cases ps with
    | nil => exact .inr ⟨p, by simp, by simpa using h⟩
    | cons q qs =>
      rw [List.intercalate_cons_cons, List.mem_append, List.mem_append] at h
      rcases h with (hp | hsep) | hrest
      · exact .inr ⟨p, by simp, hp⟩
      · exact .inl hsep
      · obtain hsep | ⟨p', hmem, hc⟩ := ih hrest
        · exact .inl hsep
        · exact .inr ⟨p', List.mem_cons_of_mem _ hmem, hc⟩

/-- A name is written in colons and the characters of its parts. -/
theorem mem_text {name : QualName} {c : Char} (h : c ∈ name.text.toList) :
    c = ':' ∨ ∃ part ∈ name.parts, c ∈ part.toList := by
  have hcolon : c ∈ colons → c = ':' := by simp [colons]
  rw [toList_text, List.mem_append] at h
  rcases h with habs | hrest
  · split at habs
    · exact .inl (hcolon habs)
    · cases habs
  · obtain hsep | ⟨p, hmem, hc⟩ := mem_intercalate hrest
    · exact .inl (hcolon hsep)
    · obtain ⟨part, hpart, rfl⟩ := List.mem_map.mp hmem
      exact .inr ⟨part, hpart, hc⟩

/-! ## Reading -/

theorem pieces_cons {c : Char} (h : c ≠ ':') (rest : List Char) :
    pieces (c :: rest) = (pieces rest).modifyHead (c :: ·) := by
  rw [pieces]
  rintro rest' rfl
  exact absurd rfl h

theorem pieces_append_colons {p : List Char} (h : ':' ∉ p) (rest : List Char) :
    pieces (p ++ colons ++ rest) = p :: pieces rest := by
  induction p with
  | nil => rfl
  | cons c p ih =>
    rw [List.mem_cons, not_or] at h
    rw [List.cons_append, List.cons_append, pieces_cons (Ne.symm h.1), ih h.2, List.modifyHead_cons]

theorem pieces_of_no_colon {p : List Char} (h : ':' ∉ p) : pieces p = [p] := by
  induction p with
  | nil => rfl
  | cons c p ih =>
    rw [List.mem_cons, not_or] at h
    rw [pieces_cons (Ne.symm h.1), ih h.2, List.modifyHead_cons]

theorem pieces_intercalate {ps : List (List Char)} (hne : ps ≠ []) (h : ∀ p ∈ ps, ':' ∉ p) :
    pieces (colons.intercalate ps) = ps := by
  induction ps with
  | nil => exact absurd rfl hne
  | cons p ps ih =>
    cases ps with
    | nil => rw [List.intercalate_singleton, pieces_of_no_colon (h p (by simp))]
    | cons q qs =>
      rw [List.intercalate_cons_cons, pieces_append_colons (h p (by simp)),
        ih (by simp) fun p' hp' => h p' (List.mem_cons_of_mem _ hp')]

/-- The mark of an absolute name is not at the head of a part that has no colon, unless that
    part is empty and another follows. -/
theorem root_intercalate {p : List Char} {ps : List (List Char)} (h : ':' ∉ p)
    (hne : p ≠ [] ∨ ps = []) :
    root (colons.intercalate (p :: ps)) = (false, colons.intercalate (p :: ps)) := by
  have hhead : ∀ rest, colons.intercalate (p :: ps) ≠ ':' :: ':' :: rest := by
    intro rest heq
    cases p with
    | nil =>
      rw [hne.resolve_left (not_not_intro rfl), List.intercalate_singleton] at heq
      cases heq
    | cons c p =>
      cases ps with
      | nil =>
        rw [List.intercalate_singleton] at heq
        exact h (by simp [heq])
      | cons q qs =>
        rw [List.intercalate_cons_cons] at heq
        exact h (by simp [(List.cons.inj heq).1])
  rw [root]
  exact hhead

theorem root_text {name : QualName} (hcolon : ∀ part ∈ name.parts, ':' ∉ part.toList)
    (hfirst : name.path.absolute = false → name.path.segments.head? ≠ some "") :
    root name.text.toList =
      (name.path.absolute, colons.intercalate (name.parts.map String.toList)) := by
  rw [toList_text]
  cases habs : name.path.absolute with
  | true => rfl
  | false =>
    cases hsegments : name.path.segments with
    | nil =>
      rw [parts, hsegments] at hcolon ⊢
      exact root_intercalate (hcolon name.ident (by simp)) (.inr rfl)
    | cons first rest =>
      have hne : first.toList ≠ [] := by
        intro hempty
        apply hfirst habs
        rw [hsegments, List.head?_cons, String.toList_eq_nil_iff.mp hempty]
      rw [parts, hsegments] at hcolon ⊢
      exact root_intercalate (hcolon first (by simp)) (.inl hne)

/-- A name reads back from its text when no part of it has a colon, the identifier is not empty,
    and an empty segment does not stand first in a relative path. -/
theorem parse?_text {name : QualName} (hident : name.ident ≠ "")
    (hcolon : ∀ part ∈ name.parts, ':' ∉ part.toList)
    (hfirst : name.path.absolute = false → name.path.segments.head? ≠ some "") :
    parse? name.text = some name := by
  have hpieces : pieces (colons.intercalate (name.parts.map String.toList)) =
      name.parts.map String.toList :=
    pieces_intercalate (by simp [parts]) (by simpa using hcolon)
  have hlast : (name.parts.map String.toList).getLast? = some name.ident.toList := by
    simp [parts]
  have hsegments : (name.parts.map String.toList).dropLast.map String.ofList =
      name.path.segments := by
    simp [parts, List.map_map, Function.comp_def]
  obtain ⟨c, cs, hcs⟩ : ∃ c cs, name.ident.toList = c :: cs :=
    List.exists_cons_of_ne_nil (mt String.toList_eq_nil_iff.mp hident)
  rw [parse?, root_text hcolon hfirst]
  simp only [hpieces, hlast, hcs, hsegments]
  rw [← hcs, String.ofList_toList]

end RustSchema.QualName
