/-
  RustSchema.Proofs.FileModules — what the module of a schema file may be called.

  The name of the module is made from the stem of the file: what follows the last separator of
  the path, without one extension (`EndsIn`, `IsStem`). What is no letter, digit or underscore
  becomes an underscore, and a further one is put before a digit or before nothing, so an
  identifier comes out (`isIdentifier_identifierOf`). Escaping it gives a raw identifier or
  another identifier that is no keyword.

  A stem of two characters or more gives a name as long at least. So the one name that the
  language refuses, the lone underscore, is that of the empty stem and of the stems of one
  character that is folded into it (`identifierOf_eq_underscore_iff`).

  `a_file_module_is_an_identifier`: all of this, for every path.
-/

import RustSchema.Proofs.Keywords

namespace RustSchema.Ident

open Text

/-! ## Paths -/

/-- What follows the last separator of the path. -/
def EndsIn (path base : String) : Prop :=
  (∀ c ∈ base.toList, isSeparator c = false) ∧
    (path = base ∨ ∃ (directory : List Char) (separator : Char), isSeparator separator = true ∧
      path.toList = directory ++ separator :: base.toList)

/-- The base name without the extension, if it has it. -/
def IsStem (base stem : String) : Prop :=
  base = stem ++ ".proto" ∨ stem = base ∧ ∀ front : String, base ≠ front ++ ".proto"

theorem takeWhile_no_separator {cs : List Char} (h : ∀ c ∈ cs, isSeparator c = false)
    (rest : List Char) :
    (cs.reverse ++ rest).takeWhile (!isSeparator ·) =
      cs.reverse ++ rest.takeWhile (!isSeparator ·) := by
  apply List.takeWhile_append_of_pos
  intro c hc
  rw [h c (List.mem_reverse.mp hc)]
  rfl

theorem lastComponent_of_endsIn {path base : String} (h : EndsIn path base) :
    lastComponent path = base := by
  obtain ⟨hbase, rfl | ⟨directory, separator, hseparator, hpath⟩⟩ := h
  · have hall := takeWhile_no_separator hbase []
    rw [List.append_nil, List.takeWhile_nil, List.append_nil] at hall
    rw [lastComponent, hall, List.reverse_reverse, String.ofList_toList]
  · rw [lastComponent, hpath, List.reverse_append, List.reverse_cons, List.append_assoc,
      takeWhile_no_separator hbase]
    simp [hseparator]

theorem endsIn_lastComponent (path : String) : EndsIn path (lastComponent path) := by
  have hsplit : (path.toList.reverse.dropWhile (!isSeparator ·)).reverse ++
      (lastComponent path).toList = path.toList := by
    rw [lastComponent, String.toList_ofList, ← List.reverse_append,
      List.takeWhile_append_dropWhile, List.reverse_reverse]
  constructor
  · intro c hc
    rw [lastComponent, String.toList_ofList, List.mem_reverse] at hc
    simpa using List.all_eq_true.mp List.all_takeWhile c hc
  · have hstop := List.head?_dropWhile_not (!isSeparator ·) path.toList.reverse
    cases hrest : path.toList.reverse.dropWhile (!isSeparator ·) with
    | nil =>
      rw [hrest, List.reverse_nil, List.nil_append] at hsplit
      exact .inl (String.toList_injective hsplit.symm)
    | cons separator rest =>
      rw [hrest] at hsplit hstop
      refine .inr ⟨rest.reverse, separator, by simpa using hstop, ?_⟩
      rw [← hsplit, List.reverse_cons, List.append_assoc, List.singleton_append]

theorem stem_of_isStem {base name : String} (h : IsStem base name) :
    stem base.toList = name.toList := by
  rcases h with rfl | ⟨rfl, hplain⟩
  · have hext : extension.isSuffixOf (name.toList ++ extension) = true :=
      List.isSuffixOf_iff_suffix.mpr ⟨name.toList, rfl⟩
    have htext : (name ++ ".proto").toList = name.toList ++ extension := String.toList_append
    rw [htext, stem, if_pos hext, List.length_append, Nat.add_sub_cancel, List.take_left]
  · rw [stem, if_neg]
    intro hext
    obtain ⟨front, hfront⟩ := List.isSuffixOf_iff_suffix.mp hext
    refine hplain (String.ofList front) (String.toList_injective ?_)
    rw [String.toList_append, String.toList_ofList, ← hfront]
    rfl

theorem exists_isStem (base : String) : ∃ name, IsStem base name := by
  by_cases h : ∃ front : String, base = front ++ ".proto"
  · obtain ⟨front, hfront⟩ := h
    exact ⟨front, .inl hfront⟩
  · exact ⟨base, .inr ⟨rfl, fun front hfront => h ⟨front, hfront⟩⟩⟩

/-! ## Identifiers -/

/-- A letter or an underscore, and then letters, digits and underscores, all of them ASCII. -/
def IsIdentifier : List Char → Prop
  | [] => False
  | c :: rest => (isUpper c || isLower c || c = '_') = true ∧ ∀ x ∈ rest, isWordChar x = true

/-- The character, if an identifier may have it. -/
def fold (c : Char) : Char := if isWordChar c then c else '_'

/-- The identifier made of a stem, before it is escaped. -/
def identifierOf (stem : List Char) : List Char :=
  if (stem.map fold).head?.all isDigit then '_' :: stem.map fold else stem.map fold

theorem fileModule_eq (path : String) :
    fileModule path =
      escape (String.ofList (identifierOf (stem (lastComponent path).toList))) :=
  rfl

theorem isWordChar_fold (c : Char) : isWordChar (fold c) = true := by
  unfold fold
  split
  · assumption
  · rfl

theorem isWordChar_of_mem_map_fold {stem : List Char} {x : Char} (h : x ∈ stem.map fold) :
    isWordChar x = true := by
  obtain ⟨c, -, rfl⟩ := List.mem_map.mp h
  exact isWordChar_fold c

theorem isIdentifier_identifierOf (stem : List Char) : IsIdentifier (identifierOf stem) := by
  unfold identifierOf
  split
  · exact ⟨rfl, fun x hx => isWordChar_of_mem_map_fold hx⟩
  · rename_i hdigit
    cases stem with
    | nil => exact absurd rfl hdigit
    | cons c rest =>
      have hword : isWordChar (fold c) = true := isWordChar_fold c
      have hfirst : isDigit (fold c) = false := by simpa using hdigit
      refine ⟨?_, fun x hx => isWordChar_of_mem_map_fold hx⟩
      rwa [isWordChar, hfirst, Bool.false_or] at hword

theorem fold_eq_underscore_iff (c : Char) :
    fold c = '_' ↔ (isDigit c || isUpper c || isLower c) = false := by
  unfold fold isWordChar
  cases hc : isDigit c || isUpper c || isLower c with
  | false => simp
  | true =>
    simp only [Bool.true_or, if_true, Bool.true_eq_false, iff_false]
    rintro rfl
    exact absurd hc (by decide)

/-- Only an empty stem, or a single character that is folded, leaves nothing but the
    underscore. -/
theorem identifierOf_eq_underscore_iff (stem : List Char) :
    identifierOf stem = ['_'] ↔
      stem = [] ∨ ∃ c, stem = [c] ∧ (isDigit c || isUpper c || isLower c) = false := by
  match stem with
  | [] => exact ⟨fun _ => .inl rfl, fun _ => rfl⟩
  | [c] =>
    simp only [← fold_eq_underscore_iff, List.cons.injEq, and_true, exists_eq_left', reduceCtorEq,
      false_or]
    cases hdigit : isDigit (fold c) with
    | false => simp [identifierOf, hdigit]
    | true =>
      have hne : fold c ≠ '_' := by
        intro h
        rw [h] at hdigit
        exact absurd hdigit (by decide)
      simp [identifierOf, hdigit, hne]
  | c :: d :: rest =>
    unfold identifierOf
    split <;> simp

/-! ## Escaping -/

theorem marked_ne_underscore : ∀ keyword ∈ pathKeywords, keyword ++ "_" ≠ "_" := by decide

theorem raw_ne_underscore : ∀ keyword ∈ keywords, "r#" ++ keyword ≠ "_" := by decide

theorem escape_eq_underscore_iff (name : String) : escape name = "_" ↔ name = "_" := by
  constructor
  · intro h
    by_cases hsame : escape name = name
    · rw [← hsame, h]
    obtain ⟨hkeyword, hescape⟩ | ⟨hkeyword, hescape⟩ := escape_cases hsame
    · exact absurd (hescape.symm.trans h) (marked_ne_underscore name hkeyword)
    · exact absurd (hescape.symm.trans h) (raw_ne_underscore name hkeyword)
  · rintro rfl
    decide

theorem IsIdentifier.append_underscore {cs : List Char} (h : IsIdentifier cs) :
    IsIdentifier (cs ++ ['_']) := by
  cases cs with
  | nil => exact h.elim
  | cons c rest =>
    refine ⟨h.1, fun x hx => ?_⟩
    rcases List.mem_append.mp hx with hx | hx
    · exact h.2 x hx
    · rw [List.mem_singleton.mp hx]
      rfl

/-- An identifier stays one when it is escaped, or becomes a raw one. -/
theorem raw_or_isIdentifier_escape {name : String} (h : IsIdentifier name.toList) :
    (∃ keyword ∈ keywords, escape name = "r#" ++ keyword) ∨ IsIdentifier (escape name).toList := by
  by_cases hsame : escape name = name
  · rw [hsame]
    exact .inr h
  obtain ⟨-, hescape⟩ | ⟨hkeyword, hescape⟩ := escape_cases hsame
  · rw [hescape, String.toList_append]
    exact .inr h.append_underscore
  · exact .inl ⟨name, hkeyword, hescape⟩

/-! ## Modules of files -/

/-- The module of a schema file is called by the base name of its path alone. It is a raw
    keyword, or an identifier that is no keyword; and it is the lone underscore exactly where the
    stem is empty or a single character that is no letter and no digit. -/
theorem a_file_module_is_an_identifier (path : String) :
    (∃ base stem, EndsIn path base ∧ IsStem base stem) ∧
    ∀ base stem, EndsIn path base → IsStem base stem →
      (∀ other, EndsIn other base → fileModule other = fileModule path) ∧
      ((∃ keyword ∈ keywords, fileModule path = "r#" ++ keyword) ∨
        IsIdentifier (fileModule path).toList ∧ fileModule path ∉ reserved) ∧
      (fileModule path = "_" ↔ stem = "" ∨
        ∃ c, stem.toList = [c] ∧ (isDigit c || isUpper c || isLower c) = false) := by
  constructor
  · obtain ⟨stem, hstem⟩ := exists_isStem (lastComponent path)
    exact ⟨_, stem, endsIn_lastComponent path, hstem⟩
  intro base name hbase hname
  have hmodule : ∀ other, EndsIn other base →
      fileModule other = escape (String.ofList (identifierOf name.toList)) := by
    intro other hother
    rw [fileModule_eq, lastComponent_of_endsIn hother, stem_of_isStem hname]
  refine ⟨fun other hother => (hmodule other hother).trans (hmodule path hbase).symm, ?_, ?_⟩
  · have hidentifier : IsIdentifier (String.ofList (identifierOf name.toList)).toList := by
      rw [String.toList_ofList]
      exact isIdentifier_identifierOf _
    have hreserved : fileModule path ∉ reserved := escape_not_reserved _
    rw [hmodule path hbase] at hreserved ⊢
    exact (raw_or_isIdentifier_escape hidentifier).imp_right fun h => ⟨h, hreserved⟩
  · have htext : String.ofList (identifierOf name.toList) = "_" ↔
        identifierOf name.toList = ['_'] := by
      rw [← String.toList_inj, String.toList_ofList]
      rfl
    rw [hmodule path hbase, escape_eq_underscore_iff, htext, identifierOf_eq_underscore_iff]
    simp

/-- A file whose stem is a single letter beyond ASCII, and a file of that base name in another
    directory. -/
theorem a_file_module_is_an_identifier_of_one_letter :
    let path := "shop/v1\\é.proto"
    EndsIn path "é.proto" ∧ EndsIn "/é.proto" "é.proto" ∧ IsStem "é.proto" "é" ∧
      fileModule path = "_" ∧ fileModule "/é.proto" = fileModule path := by
  intro path
  have hplain : ∀ c ∈ "é.proto".toList, isSeparator c = false := by simp [isSeparator]
  have hbase : EndsIn path "é.proto" :=
    ⟨hplain, .inr ⟨"shop/v1".toList, '\\', rfl, by decide +kernel⟩⟩
  have hother : EndsIn "/é.proto" "é.proto" :=
    ⟨hplain, .inr ⟨[], '/', rfl, by decide +kernel⟩⟩
  have hstem : IsStem "é.proto" "é" := .inl (by decide +kernel)
  obtain ⟨hdirectory, -, hunderscore⟩ :=
    (a_file_module_is_an_identifier path).2 _ _ hbase hstem
  exact ⟨hbase, hother, hstem, hunderscore.mpr (.inr ⟨'é', by decide +kernel, by decide⟩),
    hdirectory _ hother⟩

end RustSchema.Ident
