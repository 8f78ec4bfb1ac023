/-
  RustSchema.Proofs.WellKnownNames — which schema names are well known.

  `WellKnown.simpleName?` cuts a name at its last dot and compares the pieces. No well-known
  identifier has a dot, so the names it finds are exactly those written as the package, a dot
  and an identifier of the table (`simpleName?_eq_some_iff`).
-/

import RustSchema.WellKnown

namespace RustSchema.WellKnown

/-! ## The last dot -/

theorem takeWhile_no_dot {cs : List Char} (h : '.' ∉ cs) (rest : List Char) :
    (cs ++ rest).takeWhile (· != '.') = cs ++ rest.takeWhile (· != '.') := by
  apply List.takeWhile_append_of_pos
  intro c hc
  rw [bne_iff_ne]
  rintro rfl
  exact h hc

theorem splitLast_of_dot (before : List Char) {simple : List Char} (h : '.' ∉ simple) :
    splitLast (String.ofList (before ++ '.' :: simple)) =
      some (String.ofList before, String.ofList simple) := by
  have hlast : ((before ++ '.' :: simple).reverse.takeWhile (· != '.')).reverse = simple := by
    rw [List.reverse_append, List.reverse_cons, List.append_assoc,
      takeWhile_no_dot (by simpa using h)]
    simp
  have hcut : before.length + (simple.length + 1) - simple.length - 1 = before.length := by omega
  simp only [splitLast, String.toList_ofList, hlast, List.length_append, List.length_cons, hcut]
  rw [if_pos (by omega), List.take_left]

theorem splitLast_of_no_dot {name : String} (h : '.' ∉ name.toList) : splitLast name = none := by
  have hall := takeWhile_no_dot (mt List.mem_reverse.mp h) []
  rw [List.append_nil, List.takeWhile_nil, List.append_nil] at hall
  simp [splitLast, hall]

theorem exists_last_dot {cs : List Char} (h : '.' ∈ cs) :
    ∃ before simple, cs = before ++ '.' :: simple ∧ '.' ∉ simple := by
  obtain ⟨simple, before, hrev, hno⟩ := List.eq_append_cons_of_mem (List.mem_reverse.mpr h)
  refine ⟨before.reverse, simple.reverse, ?_, by simpa using hno⟩
  rw [← List.reverse_inj, hrev]
  simp

theorem splitLast_eq_some_iff {name before simple : String} :
    splitLast name = some (before, simple) ↔
      name = before ++ "." ++ simple ∧ '.' ∉ simple.toList := by
  constructor
  · intro h
    by_cases hdot : '.' ∈ name.toList
    · obtain ⟨b, s, hcs, hs⟩ := exists_last_dot hdot
      have hname : name = String.ofList (b ++ '.' :: s) := by rw [← hcs, String.ofList_toList]
      rw [hname, splitLast_of_dot b hs] at h
      obtain ⟨rfl, rfl⟩ : String.ofList b = before ∧ String.ofList s = simple := by simpa using h
      refine ⟨?_, by simpa using hs⟩
      rw [hname]
      apply String.toList_injective
      simp
    · rw [splitLast_of_no_dot hdot] at h
      cases h
  · rintro ⟨rfl, hs⟩
    have htext : before ++ "." ++ simple =
        String.ofList (before.toList ++ '.' :: simple.toList) := by
      apply String.toList_injective
      simp
    rw [htext, splitLast_of_dot _ hs, String.ofList_toList, String.ofList_toList]

/-! ## Well-known names -/

theorem typeNames_no_dot : ∀ simple ∈ typeNames, '.' ∉ simple.toList := by decide

theorem simpleName?_eq_some_iff {name simple : String} :
    simpleName? name = some simple ↔
      simple ∈ typeNames ∧ name = "." ++ package ++ "." ++ simple := by
  unfold simpleName?
  constructor
  · intro h
    split at h
    · rename_i before s hsplit
      split at h
      · rename_i hmem
        cases h
        refine ⟨hmem.2, ?_⟩
        rw [(splitLast_eq_some_iff.mp hsplit).1, hmem.1]
      · cases h
    · cases h
  · rintro ⟨hmem, rfl⟩
    rw [splitLast_eq_some_iff.mpr ⟨rfl, typeNames_no_dot simple hmem⟩]
    simp [hmem]

end RustSchema.WellKnown
