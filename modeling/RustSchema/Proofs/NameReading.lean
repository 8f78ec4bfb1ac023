/-
  RustSchema.Proofs.NameReading — which texts are names, and what a name that is read writes.

  The pieces of a text, joined by double colons, are the text again (`intercalate_pieces`); so
  a name writes the text it was read from (`text_of_parse?`). A text is no name when its last
  piece is empty. As the cuts are made from the left and take two colons each, that piece is
  empty when the colons at the end of the text are used up by cuts: when there is an even
  number of them, but some (`getLast?_pieces_eq_nil_iff`). The mark of an absolute name takes
  two colons as well, so it changes nothing here (`getLast?_pieces_root`).

  `names_and_texts_correspond`: every text fails to be read or reads as a name that writes it,
  and every name without colons of its own, none of them hidden by the mark of an absolute
  name, reads back from what it writes.
-/

import RustSchema.ModPath.Travel
import RustSchema.Proofs.NameText

namespace RustSchema.QualName

/-- The number of colons that the text ends in. -/
def closingColons (cs : List Char) : Nat := (cs.reverse.takeWhile (· == ':')).length

theorem closingColons_cons (c : Char) (cs : List Char) :
    closingColons (c :: cs) =
      if closingColons cs = cs.length ∧ c = ':' then cs.length + 1 else closingColons cs := by
  simp only [closingColons, List.reverse_cons, List.takeWhile_append, List.length_reverse]
  by_cases hall : (cs.reverse.takeWhile (· == ':')).length = cs.length
  · by_cases hc : c = ':'
    · simp [hall, hc]
    · simp [hall, hc]
  · simp [hall]

theorem closingColons_le (cs : List Char) : closingColons cs ≤ cs.length := by
  have h := (List.takeWhile_sublist (· == ':') (l := cs.reverse)).length_le
  rwa [List.length_reverse] at h

/-- Two colons in front of colons only are closing ones too. -/
theorem closingColons_colons (rest : List Char) :
    closingColons (':' :: ':' :: rest) =
      if closingColons rest = rest.length then rest.length + 2 else closingColons rest := by
  have hle := closingColons_le rest
  rw [closingColons_cons, closingColons_cons]
  by_cases hall : closingColons rest = rest.length
  · simp [hall]
  · simp [hall]
    omega

/-- A colon in front of colons only would be cut off with the next one. -/
theorem closingColons_cons_of_not_cut {c : Char} {rest : List Char} (hrest : rest ≠ [])
    (hne : ∀ tail, c = ':' → rest = ':' :: tail → False) :
    closingColons (c :: rest) = closingColons rest := by
  rw [closingColons_cons, if_neg]
  rintro ⟨hall, rfl⟩
  obtain ⟨d, ds, rfl⟩ := List.exists_cons_of_ne_nil hrest
  have hle := closingColons_le ds
  rw [closingColons_cons] at hall
  split at hall
  · rename_i hd
    exact hne ds rfl (by rw [hd.2])
  · rw [List.length_cons] at hall
    omega

/-! ## The last piece -/

theorem pieces_ne_nil (cs : List Char) : pieces cs ≠ [] := by
  fun_induction pieces cs with
  | case1 rest ih => simp
  | case2 c rest hne ih => simpa using ih
  | case3 => simp

theorem intercalate_pieces (cs : List Char) : colons.intercalate (pieces cs) = cs := by
  fun_induction pieces cs with
  | case1 rest ih =>
    obtain ⟨p, ps, hps⟩ := List.exists_cons_of_ne_nil (pieces_ne_nil rest)
    rw [hps] at ih ⊢
    rw [List.intercalate_cons_cons, ih]
    rfl
  | case2 c rest hne ih =>
    obtain ⟨p, ps, hps⟩ := List.exists_cons_of_ne_nil (pieces_ne_nil rest)
    rw [hps] at ih ⊢
    rw [List.modifyHead_cons]
    cases ps with
    | nil => simpa using ih
    | cons q qs =>
      rw [List.intercalate_cons_cons] at ih ⊢
      rw [List.cons_append, List.cons_append, ih]
  | case3 => rfl

/-- A cut in front changes nothing at the end. -/
theorem getLast?_pieces_colons (rest : List Char) :
    (pieces (':' :: ':' :: rest)).getLast? = (pieces rest).getLast? := by
  obtain ⟨p, ps, hps⟩ := List.exists_cons_of_ne_nil (pieces_ne_nil rest)
  rw [pieces, hps, List.getLast?_cons_cons]

/-- A character in front of a text that is not empty changes nothing in whether the last piece
    is empty, where it is not cut off. -/
theorem getLast?_modifyHead_pieces_iff {rest : List Char} (hrest : rest ≠ []) (c : Char) :
    ((pieces rest).modifyHead (c :: ·)).getLast? = some [] ↔
      (pieces rest).getLast? = some [] := by
  obtain ⟨p, ps, hps⟩ := List.exists_cons_of_ne_nil (pieces_ne_nil rest)
  have hjoin := intercalate_pieces rest
  rw [hps] at hjoin ⊢
  rw [List.modifyHead_cons]
  cases ps with
  | nil =>
    -- one piece only is the whole text, which is not empty
    rw [List.intercalate_singleton] at hjoin
    simp [hjoin, hrest]
  | cons q qs => simp

/-- The last piece is empty when nothing is there, or when the colons at the end are used up by
    cuts. -/
theorem getLast?_pieces_eq_nil_iff (cs : List Char) :
    (pieces cs).getLast? = some [] ↔
      cs = [] ∨ 0 < closingColons cs ∧ closingColons cs % 2 = 0 := by
  -- along the cuts, from the left
  fun_induction pieces cs with
  | case1 rest ih =>
    have hlast := getLast?_pieces_colons rest
    rw [pieces] at hlast
    rw [hlast, ih, closingColons_colons]
    by_cases hall : closingColons rest = rest.length
    · -- the two colons in front continue the run at the end
      rw [if_pos hall, hall, ← List.length_eq_zero_iff]
      simp only [List.cons_ne_nil, false_or]
      omega
    · rw [if_neg hall]
      have hne : rest ≠ [] := by
        rintro rfl
        exact hall rfl
      simp [hne]
  | case2 c rest hne ih =>
    by_cases hrest : rest = []
    · subst hrest
      rw [closingColons_cons]
      by_cases hc : c = ':' <;> simp [pieces, closingColons, hc]
    · rw [getLast?_modifyHead_pieces_iff hrest, ih, closingColons_cons_of_not_cut hrest hne]
      simp [hrest]
  | case3 => simp

/-! ## The mark of an absolute name -/

theorem root_cases (cs : List Char) :
    (∃ rest, cs = ':' :: ':' :: rest ∧ root cs = (true, rest)) ∨ root cs = (false, cs) := by
  fun_cases root cs with
  | case1 rest => exact .inl ⟨rest, rfl, rfl⟩
  | case2 => exact .inr rfl

/-- The mark is the mark, and the rest follows. -/
theorem root_append (cs : List Char) :
    (if (root cs).1 then colons else []) ++ (root cs).2 = cs := by
  rcases root_cases cs with ⟨rest, rfl, hroot⟩ | hroot
  · rw [hroot]
    rfl
  · rw [hroot]
    rfl

/-- What follows the mark ends in the same piece as the whole text. -/
theorem getLast?_pieces_root (cs : List Char) :
    (pieces (root cs).2).getLast? = (pieces cs).getLast? := by
  rcases root_cases cs with ⟨rest, rfl, hroot⟩ | hroot
  · rw [hroot, getLast?_pieces_colons]
  · rw [hroot]

/-! ## Names and texts -/

/-- The name that a text reads as, when its last piece is not empty. -/
def ofPieces (absolute : Bool) (ps : List (List Char)) (last : List Char) : QualName :=
  ⟨⟨absolute, ps.dropLast.map String.ofList⟩, String.ofList last⟩

theorem parse?_eq (text : String) {last : List Char}
    (hlast : (pieces text.toList).getLast? = some last) :
    parse? text = if last = [] then none
      else some (ofPieces (root text.toList).1 (pieces (root text.toList).2) last) := by
  rw [← getLast?_pieces_root] at hlast
  simp only [parse?, hlast]
  cases last with
  | nil => rfl
  | cons c cs => rfl

theorem exists_last_piece (cs : List Char) : ∃ last, (pieces cs).getLast? = some last :=
  ⟨_, List.getLast?_eq_some_getLast (pieces_ne_nil cs)⟩

theorem parse?_eq_none_iff {text : String} :
    parse? text = none ↔ (pieces text.toList).getLast? = some [] := by
  obtain ⟨last, hlast⟩ := exists_last_piece text.toList
  rw [parse?_eq text hlast, hlast]
  by_cases h : last = [] <;> simp [h]

theorem map_toList_parts_ofPieces {absolute : Bool} {ps : List (List Char)} {last : List Char}
    (hlast : ps.getLast? = some last) :
    (ofPieces absolute ps last).parts.map String.toList = ps := by
  obtain ⟨init, rfl⟩ := List.getLast?_eq_some_iff.mp hlast
  simp [ofPieces, parts, Function.comp_def]

/-- A name that is read writes the text it was read from. -/
theorem text_of_parse? {text : String} {name : QualName} (h : parse? text = some name) :
    name.text = text := by
  obtain ⟨last, hlast⟩ := exists_last_piece text.toList
  rw [parse?_eq text hlast] at h
  split at h
  · cases h
  · cases h
    rw [← getLast?_pieces_root] at hlast
    rw [← String.toList_inj, toList_text, map_toList_parts_ofPieces hlast, intercalate_pieces]
    exact root_append text.toList

theorem parse_eq_ok_iff {text : String} {name : QualName} :
    parse text = .ok name ↔ parse? text = some name := by
  unfold parse
  cases parse? text <;> simp

theorem parse_eq_error_iff {text : String} {e : Error} :
    parse text = .error e ↔ parse? text = none ∧ e = .notAName text := by
  unfold parse
  cases parse? text <;> simp [eq_comm]

/-- Reading a text fails exactly when there is nothing to read or when it ends in an even
    number of colons, but some; a name that is read writes the text. A name reads back from
    what it writes when its identifier is not empty, no part of it has a colon, and no empty
    segment stands first in a relative path. -/
theorem names_and_texts_correspond :
    (∀ text, parse text = .error (.notAName text) ↔
      text = "" ∨ 0 < closingColons text.toList ∧ closingColons text.toList % 2 = 0) ∧
    (∀ text, (∃ name, parse text = .ok name) ∨ parse text = .error (.notAName text)) ∧
    (∀ text name, parse text = .ok name → name.text = text) ∧
    (∀ name : QualName, name.ident ≠ "" → ':' ∉ name.ident.toList →
      (∀ segment ∈ name.path.segments, ':' ∉ segment.toList) →
      ¬ (name.path.absolute = false ∧ name.path.segments.head? = some "") →
      parse name.text = .ok name) := by
  refine ⟨fun text => ?_, fun text => ?_, fun text name h => ?_, ?_⟩
  · rw [parse_eq_error_iff, parse?_eq_none_iff, getLast?_pieces_eq_nil_iff,
      String.toList_eq_nil_iff]
    simp
  · rw [parse]
    cases parse? text with
    | none => exact .inr rfl
    | some name => exact .inl ⟨name, rfl⟩
  · exact text_of_parse? (parse_eq_ok_iff.mp h)
  · intro name hident hcolon hsegments hfirst
    have hparts : ∀ part ∈ name.parts, ':' ∉ part.toList := by
      intro part hpart
      rcases List.mem_append.mp hpart with hsegment | hlast
      · exact hsegments part hsegment
      · rw [List.mem_singleton.mp hlast]
        exact hcolon
    exact parse_eq_ok_iff.mpr (parse?_text hident hparts fun habs hhead => hfirst ⟨habs, hhead⟩)

/-- An absolute name keeps its empty segments, and what it writes is no name without the
    identifier. -/
theorem names_and_texts_correspond_with_empty_segments :
    let name : QualName := ⟨⟨true, ["", "a", ""]⟩, "B"⟩
    name.text = "::::a::::B" ∧ parse name.text = .ok name ∧
      parse "::::a::::" = .error (.notAName "::::a::::") := by
  intro name
  obtain ⟨hfails, -, -, hreads⟩ := names_and_texts_correspond
  refine ⟨by decide, hreads name (by decide) (by decide) ?_ (by decide), (hfails _).mpr ?_⟩
  · simp [name]
  · exact .inr (by decide)

end RustSchema.QualName
