/-
  RustSchema.Proofs.Spelling — words in brackets are read in one way only.

  A type is written as words with brackets, ampersands and commas between them. A `Spelling`
  is what is written, before it is characters. Where no word has such a mark in it
  (`Spelling.Clean`), each spelling begins with a word that ends at the first mark
  (`lead_eq_and_tail_eq`), and the mark says what follows. So the characters determine the
  spelling, also when more follows that closes it (`determined_of_clean`); the comma between
  the arguments of a map is the first one left when the key has been read, whatever commas the
  key has.
-/

namespace RustSchema

inductive Spelling where
  | word (w : String)
  | applied (w : String) (argument : Spelling)
  | mapped (w : String) (key value : Spelling)
  | bracketed (element : Spelling)
  | ref (target : Spelling)

namespace Spelling

/-- The characters that are in no word. -/
def marks : List Char := ['<', '>', '[', ']', '&', ',', ' ']

/-- The marks that can follow a spelling. -/
def closers : List Char := ['>', ']', ',']

def chars : Spelling → List Char
  | .word w => w.toList
  | .applied w argument => w.toList ++ '<' :: argument.chars ++ ['>']
  | .mapped w key value => w.toList ++ '<' :: key.chars ++ ',' :: ' ' :: value.chars ++ ['>']
  | .bracketed element => '[' :: element.chars ++ [']']
  | .ref target => '&' :: target.chars

def IsWord (cs : List Char) : Prop := ∀ c ∈ cs, c ∉ marks

instance (cs : List Char) : Decidable (IsWord cs) :=
  List.decidableBAll (· ∉ marks) cs

/-- No word of the spelling has a mark in it. -/
def Clean : Spelling → Prop
  | .word w => IsWord w.toList
  | .applied w argument => IsWord w.toList ∧ argument.Clean
  | .mapped w key value => IsWord w.toList ∧ key.Clean ∧ value.Clean
  | .bracketed element => element.Clean
  | .ref target => target.Clean

/-! ## Where a word ends -/

/-- What ends a word: nothing, or a mark. -/
def Stops (rest : List Char) : Prop := ∀ c ∈ rest.head?, c ∈ marks

/-- What ends a spelling: nothing, or a mark that closes. -/
def Closes (rest : List Char) : Prop := ∀ c ∈ rest.head?, c ∈ closers

theorem Closes.stops {rest : List Char} (h : Closes rest) : Stops rest := by
  intro c hc
  have hcloser : c ∈ closers := h c hc
  simp only [closers, List.mem_cons, List.not_mem_nil, or_false] at hcloser
  rcases hcloser with rfl | rfl | rfl <;> simp [marks]

theorem closes_nil : Closes [] := by simp [Closes]

theorem closes_angle (rest : List Char) : Closes ('>' :: rest) := by simp [Closes, closers]

theorem closes_bracket (rest : List Char) : Closes (']' :: rest) := by simp [Closes, closers]

theorem closes_comma (rest : List Char) : Closes (',' :: rest) := by simp [Closes, closers]

theorem takeWhile_word {w rest : List Char} (hw : IsWord w) (hrest : Stops rest) :
    (w ++ rest).takeWhile (· ∉ marks) = w := by
  rw [List.takeWhile_append_of_pos (by simpa [IsWord] using hw)]
  cases rest with
  | nil => simp
  | cons c rest =>
    have hc : c ∈ marks := hrest c rfl
    simp [hc]

theorem word_append_inj {w w' rest rest' : List Char} (hw : IsWord w) (hw' : IsWord w')
    (hrest : Stops rest) (hrest' : Stops rest') (h : w ++ rest = w' ++ rest') :
    w = w' ∧ rest = rest' := by
  have hword : w = w' := by
    rw [← takeWhile_word hw hrest, h, takeWhile_word hw' hrest']
  subst hword
  exact ⟨rfl, List.append_cancel_left h⟩

/-! ## Where a spelling ends -/

/-- The word that a spelling begins with; brackets and references begin with none. -/
def lead : Spelling → String
  | .word w | .applied w _ | .mapped w _ _ => w
  | .bracketed _ | .ref _ => ""

/-- What follows that word, with `rest` after the spelling. -/
def tail (rest : List Char) : Spelling → List Char
  | .word _ => rest
  | .applied _ argument => '<' :: (argument.chars ++ '>' :: rest)
  | .mapped _ key value => '<' :: (key.chars ++ ',' :: ' ' :: (value.chars ++ '>' :: rest))
  | .bracketed element => '[' :: (element.chars ++ ']' :: rest)
  | .ref target => '&' :: (target.chars ++ rest)

theorem chars_append (s : Spelling) (rest : List Char) :
    s.chars ++ rest = s.lead.toList ++ s.tail rest := by
  cases s <;> simp [chars, lead, tail]

theorem isWord_lead {s : Spelling} (h : s.Clean) : IsWord s.lead.toList := by
  cases s with
  | word => exact h
  | applied => exact h.1
  | mapped => exact h.1
  | bracketed | ref => simp [lead, IsWord]

theorem stops_tail (s : Spelling) {rest : List Char} (h : Closes rest) : Stops (s.tail rest) := by
  cases s with
  | word => exact h.stops
  | _ => simp [tail, Stops, marks]

/-- Two spellings that begin one text begin with one word, and go on alike after it. -/
theorem lead_eq_and_tail_eq {s s' : Spelling} {rest rest' : List Char} (hs : s.Clean)
    (hs' : s'.Clean) (hrest : Closes rest) (hrest' : Closes rest')
    (h : s.chars ++ rest = s'.chars ++ rest') :
    s.lead = s'.lead ∧ s.tail rest = s'.tail rest' := by
  rw [chars_append, chars_append] at h
  obtain ⟨hlead, htail⟩ := word_append_inj (isWord_lead hs) (isWord_lead hs')
    (stops_tail s hrest) (stops_tail s' hrest') h
  exact ⟨String.toList_injective hlead, htail⟩

/-- After the word of a longer spelling something opens. -/
theorem tail_ne_tail_word {s : Spelling} (h : ∀ w, s ≠ .word w) (rest : List Char) (w : String)
    {rest' : List Char} (hrest' : Closes rest') : s.tail rest ≠ (word w).tail rest' := by
  rintro heq
  rw [tail] at heq
  subst heq
  cases s with
  | word w => exact h w rfl
  | _ => simp [tail, Closes, closers] at hrest'

/-! ## What a text determines -/

/-- A text that begins with the spelling begins with no other, and what is left is the same, if
    each ends where the text ends or something closes. -/
def Determined (s : Spelling) : Prop :=
  ∀ {s' : Spelling} {rest rest' : List Char}, s'.Clean → Closes rest → Closes rest' →
    s.chars ++ rest = s'.chars ++ rest' → s = s' ∧ rest = rest'

theorem determined_word {w : String} (hs : (word w).Clean) : (word w).Determined := by
  intro s' rest rest' hs' hrest hrest' h
  obtain ⟨hlead, htail⟩ := lead_eq_and_tail_eq hs hs' hrest hrest' h
  cases s' with
  | word w' => exact ⟨congrArg word hlead, htail⟩
  | _ => exact absurd htail.symm (tail_ne_tail_word (by simp) rest' w hrest)

theorem determined_applied {w : String} {argument : Spelling} (hs : (applied w argument).Clean)
    (ih : argument.Determined) : (applied w argument).Determined := by
  intro s' rest rest' hs' hrest hrest' h
  obtain ⟨hlead, htail⟩ := lead_eq_and_tail_eq hs hs' hrest hrest' h
  cases s' with
  | word w' => exact absurd htail (tail_ne_tail_word (by simp) rest w' hrest')
  | applied w' argument' =>
    obtain ⟨rfl, hclose⟩ := ih hs'.2 (closes_angle _) (closes_angle _) (List.cons.inj htail).2
    exact ⟨congrArg (applied · argument) hlead, (List.cons.inj hclose).2⟩
  | mapped w' key value =>
    -- the argument would have to end both at the bracket and at the comma
    obtain ⟨-, hclose⟩ := ih hs'.2.1 (closes_angle _) (closes_comma _) (List.cons.inj htail).2
    cases hclose
  | bracketed | ref => cases htail

theorem determined_mapped {w : String} {key value : Spelling} (hs : (mapped w key value).Clean)
    (ihkey : key.Determined) (ihvalue : value.Determined) : (mapped w key value).Determined := by
  intro s' rest rest' hs' hrest hrest' h
  obtain ⟨hlead, htail⟩ := lead_eq_and_tail_eq hs hs' hrest hrest' h
  cases s' with
  | word w' => exact absurd htail (tail_ne_tail_word (by simp) rest w' hrest')
  | applied w' argument =>
    obtain ⟨-, hclose⟩ := ihkey hs'.2 (closes_comma _) (closes_angle _) (List.cons.inj htail).2
    cases hclose
  | mapped w' key' value' =>
    -- the key ends at one comma, whatever commas are in it
    obtain ⟨rfl, hcomma⟩ := ihkey hs'.2.1 (closes_comma _) (closes_comma _) (List.cons.inj htail).2
    have hvalue : value.chars ++ '>' :: rest = value'.chars ++ '>' :: rest' :=
      (List.cons.inj (List.cons.inj hcomma).2).2
    obtain ⟨rfl, hclose⟩ := ihvalue hs'.2.2 (closes_angle _) (closes_angle _) hvalue
    exact ⟨congrArg (mapped · key value) hlead, (List.cons.inj hclose).2⟩
  | bracketed | ref => cases htail

theorem determined_bracketed {element : Spelling} (hs : (bracketed element).Clean)
    (ih : element.Determined) : (bracketed element).Determined := by
  intro s' rest rest' hs' hrest hrest' h
  obtain ⟨-, htail⟩ := lead_eq_and_tail_eq hs hs' hrest hrest' h
  cases s' with
  | word w' => exact absurd htail (tail_ne_tail_word (by simp) rest w' hrest')
  | bracketed element' =>
    have helement : element'.Clean := hs'
    obtain ⟨rfl, hclose⟩ := ih helement (closes_bracket _) (closes_bracket _) (List.cons.inj htail).2
    exact ⟨rfl, (List.cons.inj hclose).2⟩
  | applied | mapped | ref => cases htail

theorem determined_ref {target : Spelling} (hs : (ref target).Clean) (ih : target.Determined) :
    (ref target).Determined := by
  intro s' rest rest' hs' hrest hrest' h
  obtain ⟨-, htail⟩ := lead_eq_and_tail_eq hs hs' hrest hrest' h
  cases s' with
  | word w' => exact absurd htail (tail_ne_tail_word (by simp) rest w' hrest')
  | ref target' =>
    have htarget : target'.Clean := hs'
    obtain ⟨rfl, hend⟩ := ih htarget hrest hrest' (List.cons.inj htail).2
    exact ⟨rfl, hend⟩
  | applied | mapped | bracketed => cases htail

theorem determined_of_clean {s : Spelling} (hs : s.Clean) : s.Determined := by
  induction s with
  | word w => exact determined_word hs
  | applied w argument ih => exact determined_applied hs (ih hs.2)
  | mapped w key value ihkey ihvalue => exact determined_mapped hs (ihkey hs.2.1) (ihvalue hs.2.2)
  | bracketed element ih => exact determined_bracketed hs (ih hs)
  | ref target ih => exact determined_ref hs (ih hs)

theorem eq_of_chars_eq {s s' : Spelling} (hs : s.Clean) (hs' : s'.Clean)
    (h : s.chars = s'.chars) : s = s' :=
  (determined_of_clean hs hs' closes_nil closes_nil (congrArg (· ++ []) h)).1

end Spelling

end RustSchema
