/-
  RustSchema.Proofs.Keywords — no identifier of generated code is a keyword.

  The two forms of escape, `type` as `r#type` and `super` as `super_`, give no keyword, and
  what is not escaped is none (`escape_not_reserved`). The module names are escaped, so a
  module is never called `super`, and the segment that leaves a module is never mistaken for
  one that enters it (`messageModule_ne_super`, `fileModule_ne_super`).

  Two names are escaped alike only where one of them is the escaped form of the other
  (`eq_escape_of_escape_eq`).
-/

import RustSchema.Ident
import RustSchema.ModPath

namespace RustSchema.Ident

/-- Every keyword, whether or not it can be a raw identifier. -/
def reserved : List String := pathKeywords ++ keywords

theorem marked_not_reserved : ∀ keyword ∈ pathKeywords, keyword ++ "_" ∉ reserved := by decide

theorem raw_not_reserved : ∀ keyword ∈ keywords, "r#" ++ keyword ∉ reserved := by decide

theorem escape_not_reserved (name : String) : escape name ∉ reserved := by
  unfold escape
  by_cases hp : name ∈ pathKeywords
  · rw [if_pos hp]
    exact marked_not_reserved name hp
  rw [if_neg hp]
  by_cases hk : name ∈ keywords
  · rw [if_pos hk]
    exact raw_not_reserved name hk
  · rw [if_neg hk]
    simp [reserved, hp, hk]

theorem marked_ne_raw :
    ∀ keyword ∈ pathKeywords, ∀ other ∈ keywords, keyword ++ "_" ≠ "r#" ++ other := by decide

/-- What is changed is a keyword, and changed in one of two ways. -/
theorem escape_cases {name : String} (h : escape name ≠ name) :
    (name ∈ pathKeywords ∧ escape name = name ++ "_") ∨
      (name ∈ keywords ∧ escape name = "r#" ++ name) := by
  unfold escape at h ⊢
  by_cases hp : name ∈ pathKeywords
  · exact .inl ⟨hp, if_pos hp⟩
  · rw [if_neg hp] at h ⊢
    by_cases hk : name ∈ keywords
    · exact .inr ⟨hk, if_pos hk⟩
    · exact absurd (if_neg hk) h

/-- The two forms are never the same, and what is not escaped stays as it is. -/
theorem eq_escape_of_escape_eq {a b : String} (h : escape a = escape b) :
    a = b ∨ b = escape a ∨ a = escape b := by
  by_cases ha : escape a = a
  · exact .inr (.inr (ha.symm.trans h))
  by_cases hb : escape b = b
  · exact .inr (.inl (hb.symm.trans h.symm))
  left
  obtain ⟨hap, hae⟩ | ⟨hak, hae⟩ := escape_cases ha
  · obtain ⟨hbp, hbe⟩ | ⟨hbk, hbe⟩ := escape_cases hb
    · rw [hae, hbe] at h
      exact (String.append_left_inj "_").mp h
    · rw [hae, hbe] at h
      exact absurd h (marked_ne_raw a hap b hbk)
  · obtain ⟨hbp, hbe⟩ | ⟨hbk, hbe⟩ := escape_cases hb
    · rw [hae, hbe] at h
      exact absurd h.symm (marked_ne_raw b hbp a hak)
    · rw [hae, hbe] at h
      exact (String.append_right_inj "r#").mp h

theorem super_reserved : superSegment ∈ reserved := by decide

theorem escape_ne_super (name : String) : escape name ≠ superSegment := by
  intro h
  exact escape_not_reserved name (h ▸ super_reserved)

theorem messageModule_ne_super (message : String) : messageModule message ≠ superSegment :=
  escape_ne_super _

theorem fileModule_ne_super (path : String) : fileModule path ≠ superSegment :=
  escape_ne_super _

end RustSchema.Ident
