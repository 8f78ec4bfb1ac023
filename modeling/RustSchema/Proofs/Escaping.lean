/-
  RustSchema.Proofs.Escaping — which names an escape brings together.

  An escaped name is no keyword, so escaping it again changes nothing (`escape_escape`). A keyword
  and its own escape are therefore escaped alike (`escapes_alike_of_reserved`); and as what is
  escaped alike is a name and its escape (`eq_escape_of_escape_eq`), no other two names are.

  `only_keywords_meet_their_escapes`: this, and what it means for the names of generated code.
-/

import RustSchema.Proofs.Keywords
import RustSchema.Scope
import Mathlib.Data.Set.Insert

namespace RustSchema.Ident

/-! ## What is escaped, and to what -/

theorem not_mem_pathKeywords : ∀ keyword ∈ keywords, keyword ∉ pathKeywords := by decide

theorem escape_of_mem_pathKeywords {name : String} (h : name ∈ pathKeywords) :
    escape name = name ++ "_" := by
  unfold escape
  rw [if_pos h]

theorem escape_of_mem_keywords {name : String} (h : name ∈ keywords) :
    escape name = "r#" ++ name := by
  unfold escape
  rw [if_neg (not_mem_pathKeywords name h), if_pos h]

theorem mem_reserved_of_escape_ne {name : String} (h : escape name ≠ name) : name ∈ reserved := by
  rcases escape_cases h with ⟨hp, -⟩ | ⟨hk, -⟩
  · exact List.mem_append_left _ hp
  · exact List.mem_append_right _ hk

theorem escape_escape (name : String) : escape (escape name) = escape name := by
  by_contra hne
  exact escape_not_reserved name (mem_reserved_of_escape_ne hne)

/-! ## Collisions -/

/-- A keyword that cannot be raw and the same with an underscore, or one that can be and its raw
    form. -/
def IsEscapedPair (names : Set String) : Prop :=
  (∃ keyword ∈ pathKeywords, names = {keyword, keyword ++ "_"}) ∨
    ∃ keyword ∈ keywords, names = {keyword, "r#" ++ keyword}

theorem isEscapedPair_iff {names : Set String} :
    IsEscapedPair names ↔ ∃ keyword ∈ reserved, names = {keyword, escape keyword} := by
  constructor
  · rintro (⟨keyword, hp, rfl⟩ | ⟨keyword, hk, rfl⟩)
    · exact ⟨keyword, List.mem_append_left _ hp, by rw [escape_of_mem_pathKeywords hp]⟩
    · exact ⟨keyword, List.mem_append_right _ hk, by rw [escape_of_mem_keywords hk]⟩
  · rintro ⟨keyword, hkeyword, rfl⟩
    rcases List.mem_append.mp hkeyword with hp | hk
    · exact .inl ⟨keyword, hp, by rw [escape_of_mem_pathKeywords hp]⟩
    · exact .inr ⟨keyword, hk, by rw [escape_of_mem_keywords hk]⟩

/-- A keyword is not what it is escaped to, and the two are escaped alike. -/
theorem escapes_alike_of_reserved {name : String} (h : name ∈ reserved) :
    name ≠ escape name ∧ escape name = escape (escape name) := by
  constructor
  · intro hsame
    exact escape_not_reserved name (hsame ▸ h)
  · exact (escape_escape name).symm

theorem ne_and_escape_eq_iff {a b : String} :
    a ≠ b ∧ escape a = escape b ↔ IsEscapedPair {a, b} := by
  rw [isEscapedPair_iff]
  constructor
  · rintro ⟨hne, h⟩
    rcases eq_escape_of_escape_eq h with hsame | rfl | rfl
    · exact absurd hsame hne
    · exact ⟨a, mem_reserved_of_escape_ne hne.symm, rfl⟩
    · exact ⟨b, mem_reserved_of_escape_ne hne, Set.pair_comm _ _⟩
  · rintro ⟨keyword, hkeyword, hsame⟩
    obtain ⟨hne, halike⟩ := escapes_alike_of_reserved hkeyword
    rcases Set.pair_eq_pair_iff.mp hsame with ⟨rfl, rfl⟩ | ⟨rfl, rfl⟩
    · exact ⟨hne, halike⟩
    · exact ⟨hne.symm, halike.symm⟩

/-- No name is escaped to a keyword, and a second escape changes none; so neither the module of a
    message nor the identifier of a declaration is a keyword. Two different names are escaped
    alike exactly when they are a keyword and its escape. -/
theorem only_keywords_meet_their_escapes :
    (∀ name, escape name ∉ reserved ∧ escape (escape name) = escape name) ∧
    (∀ message, messageModule message ∉ reserved) ∧
    (∀ d : Declared, d.nameInFile.ident ∉ reserved) ∧
    ∀ a b, a ≠ b ∧ escape a = escape b ↔ IsEscapedPair {a, b} := by
  refine ⟨fun name => ⟨escape_not_reserved name, escape_escape name⟩, ?_, ?_, ?_⟩
  · intro message
    exact escape_not_reserved (snakeCase message)
  · intro d
    exact escape_not_reserved d.name
  · intro a b
    exact ne_and_escape_eq_iff

end RustSchema.Ident
