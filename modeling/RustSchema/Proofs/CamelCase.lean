/-
  RustSchema.Proofs.CamelCase — names in camel case can be read off the names of their modules.

  A name in camel case is made of words, each a capital and then small letters or digits
  (`IsCamelCase`). No two capitals stand together, so only the pass that parts a capital from
  what is before it does anything, and it does so exactly between two words: the name in snake
  case is the words, with a small letter each instead of the capital, joined by underscores
  (`snakeCase_of_words`). Cut at the underscores, with the words capitalized, it is the name
  again (`flatMap_capitalize_splitOn_snakeCase`).

  An escape leaves a mark that neither form of such a name has (`IsUnmarked`): a hash, or an
  underscore with no word after it. So escaping keeps different names of this sort different
  (`escape_inj`), and different messages have different modules (`messageModule_inj`).
-/

import RustSchema.Proofs.Keywords
import RustSchema.Proofs.NameText

/-! ## Small letters -/

namespace RustSchema.Text

/-- The small letter for a capital. -/
def small (c : Char) : Char := if isUpper c then Char.ofNat (c.toNat + 32) else c

/-- What holds of the 128 characters one by one. -/
theorem forall_ascii {P : Char → Prop} (h : ∀ n < 128, P (Char.ofNat n)) {c : Char}
    (hc : isAscii c = true) : P c := by
  have hn : c.toNat < 128 := by simpa [isAscii] using hc
  rw [← Char.ofNat_toNat c]
  exact h c.toNat hn

/-- Without the final sigma every character is put in small letters by itself. -/
theorem lower_of_ascii {cs : List Char} (h : ∀ c ∈ cs, isAscii c = true) :
    lower cs = cs.map small := by
  have hafter : ∀ before, lowerAfter before cs = cs.map small := by
    induction cs with
    | nil => intro before; rfl
    | cons c rest ih =>
      intro before
      have hc : isAscii c = true := h c List.mem_cons_self
      have hsigma : c ≠ 'Σ' := by
        rintro rfl
        exact absurd hc (by decide)
      rw [lowerAfter, if_neg hsigma, lowerChar_of_ascii hc,
        ih (fun x hx => h x (List.mem_cons_of_mem _ hx))]
      rfl
  exact hafter []

end RustSchema.Text

namespace RustSchema.Ident

open Text

/-! ## Words -/

/-- What may follow the capital of a word. -/
def isTail (c : Char) : Bool := isLower c || isDigit c

/-- A capital, and at least one small letter or digit. -/
def IsCamelWord : List Char → Prop
  | [] => False
  | c :: tail => isUpper c = true ∧ tail ≠ [] ∧ tail.all isTail = true

instance : DecidablePred IsCamelWord
  | [] => .isFalse id
  | c :: tail => inferInstanceAs (Decidable (isUpper c = true ∧ tail ≠ [] ∧ tail.all isTail = true))

/-- Words, at least one. -/
def IsCamelCase (name : String) : Prop :=
  ∃ words, words ≠ [] ∧ name.toList = words.flatten ∧ ∀ word ∈ words, IsCamelWord word

theorem isAscii_of_isUpper {c : Char} (h : isUpper c = true) : isAscii c = true := by
  simp only [isUpper, isAscii, Bool.and_eq_true, decide_eq_true_eq] at h ⊢
  have hle : c.toNat ≤ 'Z'.toNat := h.2
  exact Nat.lt_of_le_of_lt hle (by decide)

theorem isAscii_of_isTail {c : Char} (h : isTail c = true) : isAscii c = true := by
  simp only [isTail, isLower, isDigit, isAscii, Bool.or_eq_true, Bool.and_eq_true,
    decide_eq_true_eq] at h ⊢
  rcases h with h | h
  · have hle : c.toNat ≤ 'z'.toNat := h.2
    exact Nat.lt_of_le_of_lt hle (by decide)
  · have hle : c.toNat ≤ '9'.toNat := h.2
    exact Nat.lt_of_le_of_lt hle (by decide)

theorem tail_cases {c : Char} (h : isTail c = true) :
    isUpper c = false ∧ small c = c ∧ c ≠ '_' ∧ c ≠ '#' :=
  forall_ascii (P := fun c => isTail c = true →
    isUpper c = false ∧ small c = c ∧ c ≠ '_' ∧ c ≠ '#') (by decide +kernel)
    (isAscii_of_isTail h) h

theorem capital_cases {c : Char} (h : isUpper c = true) :
    isTail c = false ∧ isTail (small c) = true ∧ c ≠ '_' ∧ c ≠ '#' ∧ upperChar (small c) = [c] :=
  forall_ascii (P := fun c => isUpper c = true → isTail c = false ∧ isTail (small c) = true ∧
    c ≠ '_' ∧ c ≠ '#' ∧ upperChar (small c) = [c]) (by decide +kernel) (isAscii_of_isUpper h) h

theorem exists_of_word {word : List Char} (h : IsCamelWord word) :
    ∃ c tail, word = c :: tail ∧ isUpper c = true ∧ tail ≠ [] ∧ ∀ x ∈ tail, isTail x = true := by
  cases word with
  | nil => exact h.elim
  | cons c tail => exact ⟨c, tail, rfl, h.1, h.2.1, List.all_eq_true.mp h.2.2⟩

theorem char_of_word {word : List Char} (h : IsCamelWord word) {c : Char} (hc : c ∈ word) :
    isUpper c = true ∨ isTail c = true := by
  obtain ⟨capital, tail, rfl, hcapital, -, htail⟩ := exists_of_word h
  rcases List.mem_cons.mp hc with rfl | hc
  · exact .inl hcapital
  · exact .inr (htail c hc)

/-! ## The two passes -/

theorem partAcronyms_tail {tail : List Char} (h : ∀ x ∈ tail, isTail x = true)
    (rest : List Char) : partAcronyms (tail ++ rest) = tail ++ partAcronyms rest := by
  induction tail with
  | nil => rfl
  | cons x tail ih =>
    have hx : isUpper x = false := (tail_cases (h x List.mem_cons_self)).1
    rw [List.cons_append, partAcronyms, hx, ih (fun y hy => h y (List.mem_cons_of_mem _ hy))]
    rfl

/-- A capital alone is no acronym. -/
theorem partAcronyms_flatten {words : List (List Char)} (h : ∀ word ∈ words, IsCamelWord word) :
    partAcronyms words.flatten = words.flatten := by
  induction words with
  | nil => simp [partAcronyms]
  | cons word words ih =>
    have hrest := ih fun w hw => h w (List.mem_cons_of_mem _ hw)
    obtain ⟨capital, tail, rfl, hcapital, hne, htail⟩ := exists_of_word (h word List.mem_cons_self)
    obtain ⟨x, tail, rfl⟩ := List.exists_cons_of_ne_nil hne
    have hx : isUpper x = false := (tail_cases (htail x List.mem_cons_self)).1
    calc partAcronyms (capital :: ((x :: tail) ++ words.flatten))
        = capital :: partAcronyms ((x :: tail) ++ words.flatten) := by
          rw [partAcronyms, if_pos hcapital]
          simp [hx, markAcronym]
      _ = capital :: ((x :: tail) ++ words.flatten) := by
          rw [partAcronyms_tail htail, hrest]

theorem partWords_cons_of_not_tail {c : Char} (h : isTail c = false) (rest : List Char) :
    partWords (c :: rest) = c :: partWords rest := by
  have hc : (isLower c || isDigit c) = false := h
  cases rest <;> simp [partWords, hc]

theorem partWords_cons_of_not_upper {b : Char} (h : isUpper b = false) (a : Char)
    (rest : List Char) : partWords (a :: b :: rest) = a :: partWords (b :: rest) := by
  simp [partWords, h]

theorem partWords_tail {tail : List Char} (h : ∀ x ∈ tail, isTail x = true) :
    partWords tail = tail := by
  induction tail with
  | nil => rfl
  | cons a tail ih =>
    have hrest := ih fun x hx => h x (List.mem_cons_of_mem _ hx)
    cases tail with
    | nil => rfl
    | cons b tail =>
      have hb : isUpper b = false := (tail_cases (h b (by simp))).1
      rw [partWords_cons_of_not_upper hb, hrest]

/-- Before a capital a mark is set. -/
theorem partWords_tail_append {tail : List Char} (hne : tail ≠ [])
    (h : ∀ x ∈ tail, isTail x = true) {c : Char} (hc : isUpper c = true) (rest : List Char) :
    partWords (tail ++ c :: rest) = tail ++ '_' :: c :: partWords rest := by
  induction tail with
  | nil => exact absurd rfl hne
  | cons a tail ih =>
    cases tail with
    | nil =>
      have ha : (isLower a || isDigit a) = true := h a List.mem_cons_self
      simp [partWords, ha, hc]
    | cons b tail =>
      have hb : isUpper b = false := (tail_cases (h b (by simp))).1
      have hrest := ih (by simp) fun x hx => h x (List.mem_cons_of_mem _ hx)
      rw [List.cons_append] at hrest
      rw [List.cons_append, List.cons_append, partWords_cons_of_not_upper hb, hrest]
      rfl

theorem partWords_flatten {words : List (List Char)} (hne : words ≠ [])
    (h : ∀ word ∈ words, IsCamelWord word) :
    partWords words.flatten = ['_'].intercalate words := by
  induction words with
  | nil => exact absurd rfl hne
  | cons word words ih =>
    obtain ⟨c, tail, rfl, hc, htail, htailAll⟩ := exists_of_word (h word List.mem_cons_self)
    have hstart := partWords_cons_of_not_tail (capital_cases hc).1
    cases words with
    | nil => simp [hstart, partWords_tail htailAll]
    | cons next words =>
      have hrest := ih (by simp) fun w hw => h w (List.mem_cons_of_mem _ hw)
      obtain ⟨c', tail', rfl, hc', -⟩ := exists_of_word (h next (by simp))
      have hstart' := partWords_cons_of_not_tail (capital_cases hc').1 (tail' ++ words.flatten)
      calc partWords (c :: (tail ++ c' :: (tail' ++ words.flatten)))
          = c :: (tail ++ '_' :: c' :: partWords (tail' ++ words.flatten)) := by
            rw [hstart, partWords_tail_append htail htailAll hc']
        _ = (c :: tail) ++ ['_'] ++ partWords ((c' :: tail') :: words).flatten := by
            rw [← hstart']
            simp
        _ = ['_'].intercalate ((c :: tail) :: (c' :: tail') :: words) := by
            rw [hrest, List.intercalate_cons_cons]

/-! ## Snake case -/

theorem map_intercalate (f : Char → Char) (sep : List Char) (words : List (List Char)) :
    (sep.intercalate words).map f = (sep.map f).intercalate (words.map (List.map f)) := by
  induction words with
  | nil => rfl
  | cons word words ih =>
    cases words with
    | nil => simp
    | cons next words => simpa using ih

/-- The words in small letters, joined by underscores. -/
theorem snakeCase_of_words {name : String} {words : List (List Char)} (hne : words ≠ [])
    (hname : name.toList = words.flatten) (h : ∀ word ∈ words, IsCamelWord word) :
    (snakeCase name).toList = ['_'].intercalate (words.map (List.map small)) := by
  have hascii : ∀ c ∈ ['_'].intercalate words, isAscii c = true := by
    intro c hc
    obtain hmark | ⟨word, hword, hcw⟩ := QualName.mem_intercalate hc
    · rw [List.mem_singleton.mp hmark]
      rfl
    · obtain hupper | htail := char_of_word (h word hword) hcw
      · exact isAscii_of_isUpper hupper
      · exact isAscii_of_isTail htail
  rw [snakeCase, String.toList_ofList, hname, partAcronyms_flatten h, partWords_flatten hne h,
    lower_of_ascii hascii, map_intercalate]
  rfl

/-- In small letters a word has nothing but what may follow a capital. -/
theorem isTail_of_mem_small {word : List Char} (h : IsCamelWord word) {c : Char}
    (hc : c ∈ word.map small) : isTail c = true := by
  obtain ⟨x, hx, rfl⟩ := List.mem_map.mp hc
  obtain hupper | htail := char_of_word h hx
  · exact (capital_cases hupper).2.1
  · rw [(tail_cases htail).2.1]
    exact htail

theorem splitOn_snakeCase {name : String} {words : List (List Char)} (hne : words ≠ [])
    (hname : name.toList = words.flatten) (h : ∀ word ∈ words, IsCamelWord word) :
    (snakeCase name).toList.splitOn '_' = words.map (List.map small) := by
  rw [snakeCase_of_words hne hname h]
  apply List.splitOn_intercalate
  · intro part hpart
    obtain ⟨word, hword, rfl⟩ := List.mem_map.mp hpart
    intro hmark
    exact (tail_cases (isTail_of_mem_small (h word hword) hmark)).2.2.1 rfl
  · simpa using hne

theorem capitalize_small {word : List Char} (h : IsCamelWord word) :
    Text.capitalize (word.map small) = word := by
  obtain ⟨c, tail, rfl, hc, -, htail⟩ := exists_of_word h
  have hmap : tail.map small = tail.map id :=
    List.map_congr_left fun x hx => (tail_cases (htail x hx)).2.1
  rw [List.map_cons, Text.capitalize, hmap, List.map_id, (capital_cases hc).2.2.2.2]
  rfl

/-- The words of the name in snake case, capitalized, are the name. -/
theorem flatMap_capitalize_splitOn_snakeCase {name : String} (h : IsCamelCase name) :
    ((snakeCase name).toList.splitOn '_').flatMap Text.capitalize = name.toList := by
  obtain ⟨words, hne, hname, hwords⟩ := h
  have hback : words.map (fun word => Text.capitalize (word.map small)) = words.map id :=
    List.map_congr_left fun word hword => capitalize_small (hwords word hword)
  rw [splitOn_snakeCase hne hname hwords, List.flatMap_map, List.flatMap_def, hback, List.map_id,
    hname]

theorem snakeCase_inj {a b : String} (ha : IsCamelCase a) (hb : IsCamelCase b)
    (h : snakeCase a = snakeCase b) : a = b := by
  apply String.toList_injective
  rw [← flatMap_capitalize_splitOn_snakeCase ha, h, flatMap_capitalize_splitOn_snakeCase hb]

/-! ## Escaped names -/

/-- No mark of an escape: no hash, and no word missing at an underscore. -/
def IsUnmarked (name : String) : Prop :=
  '#' ∉ name.toList ∧ [] ∉ name.toList.splitOn '_'

theorem word_missing_of_pathKeyword : ∀ keyword ∈ pathKeywords,
    [] ∈ (keyword ++ "_").toList.splitOn '_' := by decide

theorem escape_eq_self_of_isUnmarked {name : String} (h : IsUnmarked (escape name)) :
    escape name = name := by
  by_cases hsame : escape name = name
  · exact hsame
  exfalso
  obtain ⟨hkeyword, hescape⟩ | ⟨-, hescape⟩ := escape_cases hsame
  · rw [hescape] at h
    exact h.2 (word_missing_of_pathKeyword name hkeyword)
  · rw [hescape] at h
    exact h.1 (by simp)

theorem escape_inj {a b : String} (ha : IsUnmarked a) (hb : IsUnmarked b)
    (h : escape a = escape b) : a = b := by
  obtain heq | rfl | rfl := eq_escape_of_escape_eq h
  · exact heq
  · exact (escape_eq_self_of_isUnmarked hb).symm
  · exact escape_eq_self_of_isUnmarked ha

theorem isUnmarked_of_camelCase {name : String} (h : IsCamelCase name) : IsUnmarked name := by
  obtain ⟨words, hne, hname, hwords⟩ := h
  have hchars : ∀ c ∈ name.toList, c ≠ '#' ∧ c ≠ '_' := by
    intro c hc
    rw [hname] at hc
    obtain ⟨word, hword, hcw⟩ := List.mem_flatten.mp hc
    obtain hupper | htail := char_of_word (hwords word hword) hcw
    · exact ⟨(capital_cases hupper).2.2.2.1, (capital_cases hupper).2.2.1⟩
    · exact ⟨(tail_cases htail).2.2.2, (tail_cases htail).2.2.1⟩
  refine ⟨fun hmem => (hchars _ hmem).1 rfl, ?_⟩
  rw [List.splitOn_eq_singleton fun hmem => (hchars _ hmem).2 rfl, List.mem_singleton, hname]
  obtain ⟨word, hword⟩ := List.exists_mem_of_ne_nil words hne
  intro hnil
  have hempty : word = [] := List.flatten_eq_nil_iff.mp hnil.symm word hword
  exact (hempty ▸ hwords word hword : IsCamelWord [])

theorem isUnmarked_snakeCase {name : String} (h : IsCamelCase name) :
    IsUnmarked (snakeCase name) := by
  obtain ⟨words, hne, hname, hwords⟩ := h
  constructor
  · rw [snakeCase_of_words hne hname hwords]
    intro hhash
    obtain hmark | ⟨part, hpart, hc⟩ := QualName.mem_intercalate hhash
    · exact absurd hmark (by decide)
    · obtain ⟨word, hword, rfl⟩ := List.mem_map.mp hpart
      exact (tail_cases (isTail_of_mem_small (hwords word hword) hc)).2.2.2 rfl
  · rw [splitOn_snakeCase hne hname hwords]
    intro hmissing
    obtain ⟨word, hword, hempty⟩ := List.mem_map.mp hmissing
    have hnil : word = [] := List.map_eq_nil_iff.mp hempty
    exact (hnil ▸ hwords word hword : IsCamelWord [])

/-- Different messages have different modules. -/
theorem messageModule_inj {a b : String} (ha : IsCamelCase a) (hb : IsCamelCase b)
    (h : messageModule a = messageModule b) : a = b :=
  snakeCase_inj ha hb (escape_inj (isUnmarked_snakeCase ha) (isUnmarked_snakeCase hb) h)

end RustSchema.Ident
