/-
  RustSchema.Proofs.WordStarts — where a name is parted into words.

  Two passes set the marks of a name in snake case, the second on what the first has made. Both
  are rules about a character and its two neighbours (`markWhere`): the first looks for the last
  capital of a run that a small letter follows (`partAcronyms_eq`), the second for a capital after
  a small letter or digit (`partWords_eq`). A mark is neither capital nor small letter nor digit,
  so the second pass does not see those of the first, and the two together are one rule
  (`markWhere_markWhere`). Read by places it is `IsWordStart` (`partWords_partAcronyms`).

  `a_mark_stands_where_a_word_starts`: this for every name; and an ASCII name in snake case has no
  capital, so that the rule never applies to it again.
-/

import RustSchema.Proofs.CamelCase

namespace RustSchema.Ident

open Text

/-! ## The rule by places -/

/-- At place `i`, and not at the first, stands a capital, after a small letter or digit, or after
    a capital and before a small letter. -/
def IsWordStart (cs : List Char) (i : Nat) : Prop :=
  1 ≤ i ∧ cs[i]?.any isUpper ∧
    (cs[i - 1]?.any (fun a => isLower a || isDigit a) ∨
      cs[i - 1]?.any isUpper ∧ cs[i + 1]?.any isLower)

instance (cs : List Char) (i : Nat) : Decidable (IsWordStart cs i) :=
  inferInstanceAs (Decidable (_ ∧ _ ∧ (_ ∨ _ ∧ _)))

/-- The text with an underscore before each start of a word. -/
def marked (cs : List Char) : List Char :=
  cs.zipIdx.flatMap fun (c, i) => if IsWordStart cs i then ['_', c] else [c]

/-! ## Rules about neighbours -/

/-- The text with an underscore before each character that the rule picks; it is shown the
    character before, the character and the one after. -/
def markWhere (picks : Option Char → Char → Option Char → Bool) (before : Option Char) :
    List Char → List Char
  | [] => []
  | c :: rest =>
    (if picks before c rest.head? then ['_', c] else [c]) ++ markWhere picks (some c) rest

def endsRun (before : Option Char) (c : Char) (after : Option Char) : Bool :=
  isUpper c && before.any isUpper && after.any isLower

def endsTail (before : Option Char) (c : Char) (_after : Option Char) : Bool :=
  isUpper c && before.any isTail

def startsWord (before : Option Char) (c : Char) (after : Option Char) : Bool :=
  endsRun before c after || endsTail before c after

variable {picks : Option Char → Char → Option Char → Bool} {before before' : Option Char}
  {c : Char} {cs rest : List Char}

theorem markWhere_of_pick (h : picks before c rest.head? = true) :
    markWhere picks before (c :: rest) = '_' :: c :: markWhere picks (some c) rest := by
  rw [markWhere, if_pos h]
  rfl

theorem markWhere_of_not_pick (h : picks before c rest.head? = false) :
    markWhere picks before (c :: rest) = c :: markWhere picks (some c) rest := by
  rw [markWhere, h]
  rfl

/-- What stands before only matters to the first character. -/
theorem markWhere_congr
    (h : ∀ c ∈ cs.head?, picks before c cs.tail.head? = picks before' c cs.tail.head?) :
    markWhere picks before cs = markWhere picks before' cs := by
  cases cs with
  | nil => rfl
  | cons c rest =>
    have hc : picks before c rest.head? = picks before' c rest.head? := h c rfl
    rw [markWhere, markWhere, hc]

/-! ## The first pass -/

theorem isLower_eq_false_of_isUpper (h : isUpper c = true) : isLower c = false := by
  have htail : (isLower c || isDigit c) = false := (capital_cases h).1
  exact (Bool.or_eq_false_iff.mp htail).1

/-- Only after a capital the first pass looks at anything. -/
theorem markWhere_endsRun_of_not_upper (h : before.any isUpper = false) (cs : List Char) :
    markWhere endsRun before cs = markWhere endsRun none cs :=
  markWhere_congr fun c _ => by simp [endsRun, h]

theorem markWhere_endsRun_of_not_capital (h : ∀ c ∈ cs.head?, isUpper c = false) :
    markWhere endsRun before cs = markWhere endsRun none cs :=
  markWhere_congr fun c hc => by simp [endsRun, h c hc]

/-- From a run of three capitals or more the first one can be taken away. -/
theorem markAcronym_cons (a b d : Char) (run after : List Char) :
    markAcronym (a :: b :: d :: run) after = a :: markAcronym (b :: d :: run) after := by
  cases hafter : after.head?.any isLower <;> simp [markAcronym, hafter]

/-- A run of capitals, after its first one. -/
theorem cons_markWhere_run {run after : List Char} (hrun : ∀ x ∈ run, isUpper x = true)
    (hafter : ∀ x ∈ after.head?, isUpper x = false) {a : Char} (ha : isUpper a = true) :
    a :: markWhere endsRun (some a) (run ++ after) =
      markAcronym (a :: run) after ++ markWhere endsRun none after := by
  induction run generalizing a with
  | nil =>
    have hstay : markAcronym [a] after = [a] := by simp [markAcronym]
    rw [hstay, List.nil_append, markWhere_endsRun_of_not_capital hafter]
    rfl
  | cons b run ih =>
    have hb : isUpper b = true := hrun b List.mem_cons_self
    have hrest := ih (fun x hx => hrun x (List.mem_cons_of_mem _ hx)) hb
    cases run with
    | nil =>
      -- `b` is the last capital: whether it is picked depends on what follows the run
      rw [List.nil_append] at hrest
      cases hlower : after.head?.any isLower with
      | true =>
        have hpick : endsRun (some a) b after.head? = true := by simp [endsRun, ha, hb, hlower]
        have hmark : markAcronym [a, b] after = [a, '_', b] := by simp [markAcronym, hlower]
        rw [List.singleton_append, markWhere_of_pick hpick, hmark,
          markWhere_endsRun_of_not_capital hafter]
        rfl
      | false =>
        have hpick : endsRun (some a) b after.head? = false := by simp [endsRun, hlower]
        have hmark : markAcronym [a, b] after = [a, b] := by simp [markAcronym, hlower]
        rw [List.singleton_append, markWhere_of_not_pick hpick, hmark,
          markWhere_endsRun_of_not_capital hafter]
        rfl
    | cons d run =>
      -- a capital follows `b`, so `b` is not picked
      have hd : isLower d = false := isLower_eq_false_of_isUpper (hrun d (by simp))
      have hpick : endsRun (some a) b (d :: run ++ after).head? = false := by
        simp [endsRun, hd]
      rw [List.cons_append, markWhere_of_not_pick hpick, hrest, markAcronym_cons,
        List.cons_append]

theorem partAcronyms_eq (cs : List Char) : partAcronyms cs = markWhere endsRun none cs := by
  fun_induction partAcronyms cs with
  | case1 => rfl
  | case2 c rest hc run after ih =>
    have hsplit : rest = run ++ after := List.takeWhile_append_dropWhile.symm
    have hrun : ∀ x ∈ run, isUpper x = true := fun x hx =>
      List.all_eq_true.mp List.all_takeWhile x hx
    have hafter : ∀ x ∈ after.head?, isUpper x = false := by
      intro x hx
      have hstop := List.head?_dropWhile_not isUpper rest
      rw [Option.mem_def.mp hx] at hstop
      simpa using hstop
    have hfirst : endsRun none c rest.head? = false := by simp [endsRun]
    rw [markWhere_of_not_pick hfirst, ih, ← cons_markWhere_run hrun hafter hc, ← hsplit]
  | case3 c rest hc ih =>
    have hfirst : endsRun none c rest.head? = false := by simp [endsRun]
    have hbefore : (some c).any isUpper = false := by simpa using hc
    rw [markWhere_of_not_pick hfirst, markWhere_endsRun_of_not_upper hbefore, ih]

/-! ## The second pass -/

theorem markWhere_endsTail_of_not_tail (h : before.any isTail = false) (cs : List Char) :
    markWhere endsTail before cs = markWhere endsTail none cs :=
  markWhere_congr fun c _ => by simp [endsTail, h]

theorem partWords_eq (cs : List Char) : partWords cs = markWhere endsTail none cs := by
  fun_induction partWords cs with
  | case1 a b rest h ih =>
    obtain ⟨ha, hb⟩ : isTail a = true ∧ isUpper b = true := by simpa [isTail] using h
    have hfirst : endsTail none a (b :: rest).head? = false := by simp [endsTail]
    have hpick : endsTail (some a) b rest.head? = true := by simp [endsTail, ha, hb]
    have hbefore : (some b).any isTail = false := (capital_cases hb).1
    rw [markWhere_of_not_pick hfirst, markWhere_of_pick hpick,
      markWhere_endsTail_of_not_tail hbefore, ih]
  | case2 a b rest h ih =>
    have hfirst : endsTail none a (b :: rest).head? = false := by simp [endsTail]
    have hsame : markWhere endsTail (some a) (b :: rest) = markWhere endsTail none (b :: rest) := by
      apply markWhere_congr
      intro c hc
      obtain rfl : b = c := by simpa using hc
      have hpick : (isUpper b && isTail a) = false := by
        rw [Bool.and_comm]
        simpa [isTail] using h
      simpa [endsTail] using hpick
    rw [markWhere_of_not_pick hfirst, hsame, ih]
  | case3 cs h =>
    rcases cs with _ | ⟨a, _ | ⟨b, rest⟩⟩
    · rfl
    · simp [markWhere, endsTail]
    · exact absurd rfl (h a b rest)

/-! ## Both passes -/

/-- A mark of the first pass is nothing to the second. -/
theorem markWhere_markWhere (before : Option Char) (cs : List Char) :
    markWhere endsTail before (markWhere endsRun before cs) = markWhere startsWord before cs := by
  induction cs generalizing before with
  | nil => rfl
  | cons c rest ih =>
    cases hrun : endsRun before c rest.head? with
    | true =>
      have hpick : startsWord before c rest.head? = true := by simp [startsWord, hrun]
      rw [markWhere_of_pick hrun, markWhere_of_pick hpick, ← ih (some c)]
      have hmark : endsTail before '_' (c :: markWhere endsRun (some c) rest).head? = false := rfl
      rw [markWhere_of_not_pick hmark]
      have hcapital : endsTail (some '_') c (markWhere endsRun (some c) rest).head? = false := by
        simp [endsTail, isTail, isLower, isDigit]
      rw [markWhere_of_not_pick hcapital]
    | false =>
      rw [markWhere_of_not_pick hrun]
      have hsame : startsWord before c rest.head? =
          endsTail before c (markWhere endsRun (some c) rest).head? := by
        simp [startsWord, hrun, endsTail]
      cases htail : endsTail before c (markWhere endsRun (some c) rest).head? with
      | true => rw [markWhere_of_pick htail, markWhere_of_pick (hsame.trans htail), ih]
      | false => rw [markWhere_of_not_pick htail, markWhere_of_not_pick (hsame.trans htail), ih]

theorem isWordStart_iff (front : List Char) (c : Char) (rest : List Char) :
    IsWordStart (front ++ c :: rest) front.length ↔
      startsWord front.getLast? c rest.head? = true := by
  cases hlast : front.getLast? with
  | none =>
    obtain rfl := List.getLast?_eq_none_iff.mp hlast
    simp [IsWordStart, startsWord, endsRun, endsTail]
  | some a =>
    obtain ⟨front, rfl⟩ := List.getLast?_eq_some_iff.mp hlast
    have hbefore : (front ++ [a] ++ c :: rest)[(front ++ [a]).length - 1]? = some a := by simp
    have hhere : (front ++ [a] ++ c :: rest)[(front ++ [a]).length]? = some c := by simp
    have hafter : (front ++ [a] ++ c :: rest)[(front ++ [a]).length + 1]? = rest.head? := by
      rw [List.getElem?_append_right (by omega), List.head?_eq_getElem?]
      simp
    rw [IsWordStart, hbefore, hhere, hafter]
    cases hc : isUpper c <;> simp [startsWord, endsRun, endsTail, isTail, hc, or_comm]

theorem flatMap_zipIdx_eq (front rest : List Char) :
    ((rest.zipIdx front.length).flatMap fun (c, i) =>
        if IsWordStart (front ++ rest) i then ['_', c] else [c]) =
      markWhere startsWord front.getLast? rest := by
  induction rest generalizing front with
  | nil => rfl
  | cons c rest ih =>
    have hrest := ih (front ++ [c])
    rw [List.length_append, List.length_singleton, List.append_assoc, List.singleton_append,
      List.getLast?_concat] at hrest
    rw [List.zipIdx_cons, List.flatMap_cons, hrest, markWhere]
    simp only [isWordStart_iff]

/-- Both passes together mark the starts of words. -/
theorem partWords_partAcronyms (cs : List Char) : partWords (partAcronyms cs) = marked cs := by
  rw [partAcronyms_eq, partWords_eq, markWhere_markWhere]
  exact (flatMap_zipIdx_eq [] cs).symm

/-! ## ASCII names -/

theorem mem_marked {x : Char} (h : x ∈ marked cs) : x = '_' ∨ x ∈ cs := by
  obtain ⟨⟨c, i⟩, hmem, hx⟩ := List.mem_flatMap.mp h
  have hc : c ∈ cs := List.fst_mem_of_mem_zipIdx hmem
  dsimp only at hx
  split at hx
  · rcases List.mem_cons.mp hx with hmark | hx
    · exact .inl hmark
    · exact .inr (List.mem_singleton.mp hx ▸ hc)
  · exact .inr (List.mem_singleton.mp hx ▸ hc)

theorem not_isWordStart_of_no_capital (h : ∀ c ∈ cs, isUpper c = false) (i : Nat) :
    ¬ IsWordStart cs i := by
  rintro ⟨-, hupper, -⟩
  cases hc : cs[i]? with
  | none => simp [hc] at hupper
  | some c =>
    have hcapital : isUpper c = true := by simpa [hc] using hupper
    rw [h c (List.mem_of_getElem? hc)] at hcapital
    cases hcapital

theorem marked_of_no_capital (h : ∀ c ∈ cs, isUpper c = false) : marked cs = cs := by
  simp only [marked, not_isWordStart_of_no_capital h, if_false]
  rw [← List.map_eq_flatMap, List.zipIdx_map_fst]

theorem snakeCase_eq (name : String) :
    snakeCase name = String.ofList (lower (marked name.toList)) := by
  rw [snakeCase, partWords_partAcronyms]

theorem small_cases {c : Char} (h : isAscii c = true) :
    isAscii (small c) = true ∧ isUpper (small c) = false :=
  forall_ascii (P := fun c => isAscii (small c) = true ∧ isUpper (small c) = false)
    (by decide +kernel) h

theorem lower_of_no_capital (h : ∀ c ∈ cs, isAscii c = true ∧ isUpper c = false) :
    lower cs = cs := by
  have hsmall : cs.map small = cs.map id := by
    apply List.map_congr_left
    intro c hc
    simp [small, (h c hc).2]
  rw [lower_of_ascii fun c hc => (h c hc).1, hsmall, List.map_id]

theorem mem_snakeCase_of_ascii {name : String} (h : ∀ c ∈ name.toList, isAscii c = true)
    {x : Char} (hx : x ∈ (snakeCase name).toList) : isAscii x = true ∧ isUpper x = false := by
  have hmarked : ∀ c ∈ marked name.toList, isAscii c = true := by
    intro c hc
    rcases mem_marked hc with rfl | hc
    · rfl
    · exact h c hc
  rw [snakeCase_eq, String.toList_ofList, lower_of_ascii hmarked] at hx
  obtain ⟨c, hc, rfl⟩ := List.mem_map.mp hx
  exact small_cases (hmarked c hc)

theorem snakeCase_of_no_capital {name : String}
    (h : ∀ c ∈ name.toList, isAscii c = true ∧ isUpper c = false) : snakeCase name = name := by
  rw [snakeCase_eq, marked_of_no_capital fun c hc => (h c hc).2, lower_of_no_capital h,
    String.ofList_toList]

/-- A name in snake case is its text with an underscore before each start of a word and nothing
    else changed, in small letters. If the name is ASCII so is the result, which has no capital
    and which a second application leaves as it is. -/
theorem a_mark_stands_where_a_word_starts (name : String) :
    snakeCase name = String.ofList (lower (marked name.toList)) ∧
    ((∀ c ∈ name.toList, isAscii c = true) →
      (∀ c ∈ (snakeCase name).toList, isAscii c = true ∧ isUpper c = false) ∧
        snakeCase (snakeCase name) = snakeCase name) := by
  refine ⟨snakeCase_eq name, fun h => ?_⟩
  have hresult : ∀ c ∈ (snakeCase name).toList, isAscii c = true ∧ isUpper c = false :=
    fun c hc => mem_snakeCase_of_ascii h hc
  exact ⟨hresult, snakeCase_of_no_capital hresult⟩

/-- The last capital of a run begins the word after it, and so does a capital after a digit; a
    digit begins none, and what is marked already gets no second mark. -/
theorem a_mark_stands_where_a_word_starts_in_runs :
    let name := "HTTPServer2Go_V2"
    (∀ c ∈ name.toList, isAscii c = true) ∧ snakeCase name = "http_server2_go_v2" ∧
      snakeCase "http_server2_go_v2" = "http_server2_go_v2" := by
  intro name
  have hascii : ∀ c ∈ name.toList, isAscii c = true := by simp [name, isAscii]
  obtain ⟨htext, hagain⟩ := a_mark_stands_where_a_word_starts name
  have hresult : snakeCase name = "http_server2_go_v2" := htext.trans (by decide +kernel)
  have hsame := (hagain hascii).2
  rw [hresult] at hsame
  exact ⟨hascii, hresult, hsame⟩

end RustSchema.Ident
