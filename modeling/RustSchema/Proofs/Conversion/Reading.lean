/-
  RustSchema.Proofs.Conversion.Reading — what the text of an expression says.

  An expression is its operand, or is put together from the one it is about in one of three
  ways: with a mark in front, as the argument of a function, or with a method behind it
  (`Expr.form`). A method binds tighter than a mark (`Reads`): it is called on the operand, on
  a call or on the result of a method, and a mark in front of any of these is read last.

  Around a name, a text has one reading at most (`Reads.unique`): the marks come first, and
  what follows them ends in a method, in the bracket of a call, or is the name. The text of an
  expression has one, which is the expression itself when it calls no method on an expression
  with a mark in front (`Grouped`), and else the one with these methods moved behind the mark
  (`readsAs_regrouped`, `regrouped_eq_self_iff`).

  `a_rule_gives_its_target`: the text that a rule gives reads as an expression of the target
  type, for an operand of the source type.
-/

import RustSchema.Proofs.Conversion.Typing

namespace RustSchema.Expr

/-- How an expression is put together from the one it is about. -/
inductive Form where
  | operand
  | marked (mark : Char) (e : Expr)
  | called (function : String) (e : Expr)
  | method (name : String) (e : Expr)

def form : Expr → Form
  | .operand => .operand
  | .deref e => .marked '*' e
  | .borrow e => .marked '&' e
  | .box e => .called "::std::boxed::Box::new" e
  | .toOwned e => .method ".to_owned()" e
  | .toVec e => .method ".to_vec()" e
  | .toChars e => .called "<::protobuf::Chars as ::std::convert::From<_>>::from" e
  | .toBytes e => .called "<::bytes::Bytes as ::std::convert::From<_>>::from" e
  | .enumNumber e => .called "::protobuf::ProtobufEnum::value" e
  | .openEnumNumber e => .called "::protobuf::ProtobufEnumOrUnknown::value" e
  | .knownOrDefault e => .called "::protobuf::ProtobufEnumOrUnknown::enum_value_or_default" e
  | .toOpenEnum e => .called "::protobuf::ProtobufEnumOrUnknown::new" e

/-- What a method can be called on, and every expression. -/
inductive Binding where
  | tight
  | loose

/-- The text, around the operand's text `v`, reads as the expression. -/
inductive Reads (v : String) : Binding → String → Expr → Prop
  | operand : Reads v .tight v .operand
  | called {f t : String} {e inner : Expr} :
      e.form = .called f inner → Reads v .loose t inner → Reads v .tight (call f t) e
  | method {m t : String} {e inner : Expr} :
      e.form = .method m inner → Reads v .tight t inner → Reads v .tight (t ++ m) e
  | marked {c : Char} {t : String} {e inner : Expr} :
      e.form = .marked c inner → Reads v .loose t inner →
        Reads v .loose (String.singleton c ++ t) e
  | tight {t : String} {e : Expr} : Reads v .tight t e → Reads v .loose t e

/-- The expression is the only one that the text reads as. -/
def ReadsAs (v text : String) (e : Expr) : Prop := ∀ e', Reads v .loose text e' ↔ e' = e

/-- The characters that a name is free of. -/
def marks : List Char := ['*', '&', '(']

/-- The text of an operand that no reading cuts. Identifiers are names, and so are paths and
    fields of what has a name. -/
def IsName (v : String) : Prop := v ≠ "" ∧ ∀ c ∈ v.toList, c ∉ marks

instance (v : String) : Decidable (IsName v) :=
  @instDecidableAnd _ _ inferInstance (List.decidableBAll (· ∉ marks) v.toList)

variable {v t : String} {e e' inner : Expr} {b : Binding}

/-! ## Forms -/

theorem form_injective (h : e.form = e'.form) : e = e' := by
  cases e <;> cases e' <;> simp_all [form]

theorem marked_form {c : Char} (h : e.form = .marked c inner) :
    c = '*' ∧ e = .deref inner ∨ c = '&' ∧ e = .borrow inner := by
  cases e <;> cases h
  · exact .inl ⟨rfl, rfl⟩
  · exact .inr ⟨rfl, rfl⟩

theorem method_form {m : String} (h : e.form = .method m inner) :
    m = ".to_owned()" ∧ e = .toOwned inner ∨ m = ".to_vec()" ∧ e = .toVec inner := by
  cases e <;> cases h
  · exact .inl ⟨rfl, rfl⟩
  · exact .inr ⟨rfl, rfl⟩

/-- The text of a function opens no bracket, and does not begin with a mark. -/
theorem called_form {f : String} (h : e.form = .called f inner) :
    '(' ∉ f.toList ∧ ∃ c rest, f.toList = c :: rest ∧ c ∉ marks := by
  cases e <;> cases h
  all_goals exact ⟨by decide, _, _, rfl, by decide⟩

/-! ## Where a text begins and ends -/

theorem toList_call (f t : String) :
    (call f t).toList = f.toList ++ '(' :: (t.toList ++ [')']) := by
  simp [call]

/-- What a method can be called on begins with no mark. -/
theorem Reads.exists_first (hv : IsName v) (h : Reads v b t e) (htight : b = .tight) :
    ∃ c rest, t.toList = c :: rest ∧ c ∉ marks := by
  induction h with
  | operand =>
    obtain ⟨c, rest, hname⟩ := List.exists_cons_of_ne_nil (mt String.toList_eq_nil_iff.mp hv.1)
    exact ⟨c, rest, hname, hv.2 c (by simp [hname])⟩
  | called hform _ _ =>
    obtain ⟨-, c, rest, hf, hc⟩ := called_form hform
    exact ⟨c, _, by rw [toList_call, hf, List.cons_append], hc⟩
  | method _ _ ih =>
    obtain ⟨c, rest, ht, hc⟩ := ih rfl
    exact ⟨c, _, by rw [String.toList_append, ht, List.cons_append], hc⟩
  | marked _ _ _ => cases htight
  | tight _ _ => cases htight

/-- No text ends in an open bracket. -/
theorem Reads.exists_last (hv : IsName v) (h : Reads v b t e) :
    ∃ init c, t.toList = init ++ [c] ∧ c ≠ '(' := by
  induction h with
  | operand =>
    have hne : v.toList ≠ [] := mt String.toList_eq_nil_iff.mp hv.1
    refine ⟨_, _, (List.dropLast_concat_getLast hne).symm, fun hopen => ?_⟩
    exact hv.2 _ (List.getLast_mem hne) (by rw [hopen]; decide)
  | @called f t e inner _ _ _ =>
    exact ⟨f.toList ++ '(' :: t.toList, ')', by simp [toList_call], by decide⟩
  | @method m t e inner hform _ _ =>
    rcases method_form hform with ⟨rfl, -⟩ | ⟨rfl, -⟩
    · exact ⟨t.toList ++ ".to_owned(".toList, ')', by simp, by decide⟩
    · exact ⟨t.toList ++ ".to_vec(".toList, ')', by simp, by decide⟩
  | @marked c t e inner _ _ ih =>
    obtain ⟨init, last, ht, hlast⟩ := ih
    exact ⟨c :: init, last, by simp [ht], hlast⟩
  | tight _ ih => exact ih

/-! ## One reading -/

theorem call_ne_name (hv : IsName v) (f t : String) : call f t ≠ v := by
  rintro rfl
  exact hv.2 '(' (by simp [toList_call]) (by decide)

theorem append_method_ne_name (hv : IsName v) {m : String} (hm : e.form = .method m inner)
    (t : String) : t ++ m ≠ v := by
  rintro rfl
  rcases method_form hm with ⟨rfl, -⟩ | ⟨rfl, -⟩ <;> exact hv.2 '(' (by simp) (by decide)

/-- The function is what stands before the first open bracket. -/
theorem takeWhile_call {f : String} (hf : '(' ∉ f.toList) (t : String) :
    (call f t).toList.takeWhile (· ≠ '(') = f.toList := by
  rw [toList_call, List.takeWhile_append_of_pos]
  · simp
  · intro c hc
    simpa using ne_of_mem_of_not_mem hc hf

theorem call_inj {f f' t t' : String} (hf : '(' ∉ f.toList) (hf' : '(' ∉ f'.toList)
    (h : call f t = call f' t') : f = f' ∧ t = t' := by
  have hfun : f = f' := by
    rw [← String.toList_inj, ← takeWhile_call hf t, h, takeWhile_call hf']
  subst hfun
  have htext := congrArg String.toList h
  rw [toList_call, toList_call] at htext
  refine ⟨rfl, String.toList_inj.mp ?_⟩
  simpa using htext

/-- The brackets of a method hold nothing, and those of a call do. -/
theorem call_ne_append_method {f t' m : String} (hv : IsName v) (ht : Reads v b t e)
    (hm : e'.form = .method m inner) : call f t ≠ t' ++ m := by
  intro h
  obtain ⟨init, c, hlast, hc⟩ := ht.exists_last hv
  have hopen : ∃ s, m.toList = s ++ ['(', ')'] := by
    rcases method_form hm with ⟨rfl, -⟩ | ⟨rfl, -⟩
    · exact ⟨".to_owned".toList, by decide⟩
    · exact ⟨".to_vec".toList, by decide⟩
  obtain ⟨s, hs⟩ := hopen
  have htext : (f.toList ++ '(' :: init) ++ [c, ')'] = (t'.toList ++ s) ++ ['(', ')'] := by
    have h' := congrArg String.toList h
    rw [toList_call, hlast, String.toList_append, hs] at h'
    simpa using h'
  have hend := (List.append_inj' htext rfl).2
  exact hc (List.cons.inj hend).1

/-- The last letter of a method tells which one it is. -/
theorem append_toOwned_ne_append_toVec (t t' : String) :
    t ++ ".to_owned()" ≠ t' ++ ".to_vec()" := by
  intro h
  have hends : (t.toList ++ ".to_owne".toList) ++ "d()".toList =
      (t'.toList ++ ".to_ve".toList) ++ "c()".toList := by
    have htext := congrArg String.toList h
    simpa using htext
  have hend := (List.append_inj' hends rfl).2
  simp at hend

theorem append_method_inj {t t' m m' : String} {inner' : Expr} (hm : e.form = .method m inner)
    (hm' : e'.form = .method m' inner') (h : t ++ m = t' ++ m') : m = m' ∧ t = t' := by
  have hsame : m = m' → m = m' ∧ t = t' := by
    rintro rfl
    exact ⟨rfl, (String.append_left_inj m).mp h⟩
  rcases method_form hm with ⟨rfl, -⟩ | ⟨rfl, -⟩ <;>
    rcases method_form hm' with ⟨rfl, -⟩ | ⟨rfl, -⟩
  · exact hsame rfl
  · exact absurd h (append_toOwned_ne_append_toVec t t')
  · exact absurd h.symm (append_toOwned_ne_append_toVec t' t)
  · exact hsame rfl

theorem Reads.tight_cases (h : Reads v .tight t e) :
    t = v ∧ e = .operand ∨
    (∃ f s inner, t = call f s ∧ e.form = .called f inner ∧ Reads v .loose s inner) ∨
    (∃ m s inner, t = s ++ m ∧ e.form = .method m inner ∧ Reads v .tight s inner) := by
  cases h with
  | operand => exact .inl ⟨rfl, rfl⟩
  | called hform hinner => exact .inr (.inl ⟨_, _, _, rfl, hform, hinner⟩)
  | method hform hinner => exact .inr (.inr ⟨_, _, _, rfl, hform, hinner⟩)

theorem Reads.loose_cases (h : Reads v .loose t e) :
    (∃ c s inner, t = String.singleton c ++ s ∧ e.form = .marked c inner ∧
      Reads v .loose s inner) ∨ Reads v .tight t e := by
  cases h with
  | marked hform hinner => exact .inl ⟨_, _, _, rfl, hform, hinner⟩
  | tight h => exact .inr h

/-- A text that begins with a mark is nothing to call a method on. -/
theorem not_reads_tight_marked (hv : IsName v) {c : Char} {s : String}
    (hc : e.form = .marked c inner) : ¬ Reads v .tight (String.singleton c ++ s) e' := by
  intro h
  obtain ⟨c', rest, htext, hc'⟩ := h.exists_first hv rfl
  obtain ⟨rfl, -⟩ : c = c' ∧ s.toList = rest := by simpa using htext
  rcases marked_form hc with ⟨rfl, -⟩ | ⟨rfl, -⟩ <;> exact hc' (by decide)

/-- A text has one reading at most. -/
theorem Reads.unique (hv : IsName v) (h : Reads v b t e) (h' : Reads v b t e') : e = e' := by
  -- along the first reading; the second is put together the same way at each step
  induction h generalizing e' with
  | operand =>
    rcases h'.tight_cases with ⟨-, rfl⟩ | ⟨f, s, inner, ht, -, -⟩ | ⟨m, s, inner, ht, hm, -⟩
    · rfl
    · exact absurd ht.symm (call_ne_name hv f s)
    · exact absurd ht.symm (append_method_ne_name hv hm s)
  | @called f t e inner hform hinner ih =>
    rcases h'.tight_cases with
      ⟨ht, -⟩ | ⟨f', s, inner', ht, hform', hinner'⟩ | ⟨m, s, inner', ht, hm, -⟩
    · exact absurd ht (call_ne_name hv f t)
    · obtain ⟨rfl, rfl⟩ := call_inj (called_form hform).1 (called_form hform').1 ht
      rw [ih hinner'] at hform
      exact form_injective (hform.trans hform'.symm)
    · exact absurd ht (call_ne_append_method hv hinner hm)
  | @method m t e inner hform hinner ih =>
    rcases h'.tight_cases with ⟨ht, -⟩ | ⟨f, s, inner', ht, -, hs⟩ | ⟨m', s, inner', ht, hm', hs⟩
    · exact absurd ht (append_method_ne_name hv hform t)
    · exact absurd ht.symm (call_ne_append_method hv hs hform)
    · obtain ⟨rfl, rfl⟩ := append_method_inj hform hm' ht
      rw [ih hs] at hform
      exact form_injective (hform.trans hm'.symm)
  | @marked c t e inner hform hinner ih =>
    rcases h'.loose_cases with ⟨c', s, inner', ht, hform', hs⟩ | htight
    · have htext : c = c' ∧ t = s := by simpa [← String.toList_inj] using ht
      obtain ⟨rfl, rfl⟩ := htext
      rw [ih hs] at hform
      exact form_injective (hform.trans hform'.symm)
    · exact absurd htight (not_reads_tight_marked hv hform)
  | tight h ih =>
    rcases h'.loose_cases with ⟨c, s, inner, rfl, hform, -⟩ | htight
    · exact absurd h (not_reads_tight_marked hv hform)
    · exact ih htight

/-! ## The reading of an expression's text -/

/-- Calls the method behind the marks of an expression, where its text calls it. -/
def attach (method : Expr → Expr) : Expr → Expr
  | .deref e => .deref (attach method e)
  | .borrow e => .borrow (attach method e)
  | e => method e

/-- The expression with every method moved behind the marks in front of what it is called
    on. -/
def regrouped : Expr → Expr
  | .operand => .operand
  | .deref e => .deref e.regrouped
  | .borrow e => .borrow e.regrouped
  | .box e => .box e.regrouped
  | .toOwned e => attach .toOwned e.regrouped
  | .toVec e => attach .toVec e.regrouped
  | .toChars e => .toChars e.regrouped
  | .toBytes e => .toBytes e.regrouped
  | .enumNumber e => .enumNumber e.regrouped
  | .openEnumNumber e => .openEnumNumber e.regrouped
  | .knownOrDefault e => .knownOrDefault e.regrouped
  | .toOpenEnum e => .toOpenEnum e.regrouped

theorem attach_of_not_isOperator {method : Expr → Expr} (h : ¬ e.IsOperator) :
    attach method e = method e := by
  cases e <;> first | rfl | exact absurd trivial h

theorem Reads.not_isOperator (h : Reads v .tight t e) : ¬ e.IsOperator := by
  intro hop
  rcases h.tight_cases with ⟨-, rfl⟩ | ⟨f, s, inner, -, hform, -⟩ | ⟨m, s, inner, -, hform, -⟩
  · exact hop
  · cases e <;> first | exact hop | cases hform
  · cases e <;> first | exact hop | cases hform

theorem reads_attach {m : String} {method : Expr → Expr}
    (hmethod : ∀ e, (method e).form = .method m e) (h : Reads v b t e) :
    Reads v .loose (t ++ m) (attach method e) := by
  have htight : ∀ {t e}, Reads v .tight t e → Reads v .loose (t ++ m) (attach method e) := by
    intro t e h
    rw [attach_of_not_isOperator h.not_isOperator]
    exact .tight (.method (hmethod e) h)
  induction h with
  | operand => exact htight .operand
  | called hform hinner _ => exact htight (.called hform hinner)
  | method hform hinner _ => exact htight (.method hform hinner)
  | marked hform _ ih =>
    rw [String.append_assoc]
    rcases marked_form hform with ⟨rfl, rfl⟩ | ⟨rfl, rfl⟩ <;> exact .marked rfl ih
  | tight h _ => exact htight h

theorem reads_regrouped (v : String) (e : Expr) : Reads v .loose (e.render v) e.regrouped := by
  induction e with
  | operand => exact .tight .operand
  | deref e ih => exact .marked (c := '*') rfl ih
  | borrow e ih => exact .marked (c := '&') rfl ih
  | toOwned e ih | toVec e ih => exact reads_attach (fun _ => rfl) ih
  | box e ih | toChars e ih | toBytes e ih | enumNumber e ih | openEnumNumber e ih
  | knownOrDefault e ih | toOpenEnum e ih => exact .tight (.called rfl ih)

theorem readsAs_regrouped (hv : IsName v) (e : Expr) : ReadsAs v (e.render v) e.regrouped := by
  intro e'
  constructor
  · intro h
    exact h.unique hv (reads_regrouped v e)
  · rintro rfl
    exact reads_regrouped v e

theorem grouped_attach {method : Expr → Expr}
    (hmethod : ∀ e, ¬ e.IsOperator → e.Grouped → (method e).Grouped) (h : e.Grouped) :
    (attach method e).Grouped := by
  induction e with
  | deref e ih | borrow e ih => exact ih h
  | _ => exact hmethod _ id h

theorem grouped_regrouped (e : Expr) : e.regrouped.Grouped := by
  induction e with
  | operand => trivial
  | toOwned e ih | toVec e ih => exact grouped_attach (fun _ hop h => ⟨hop, h⟩) ih
  | deref e ih | borrow e ih | box e ih | toChars e ih | toBytes e ih | enumNumber e ih
  | openEnumNumber e ih | knownOrDefault e ih | toOpenEnum e ih => exact ih

theorem regrouped_of_grouped (h : e.Grouped) : e.regrouped = e := by
  induction e with
  | operand => rfl
  | toOwned e ih | toVec e ih =>
    obtain ⟨hop, hgrouped⟩ := h
    rw [regrouped, ih hgrouped, attach_of_not_isOperator hop]
  | deref e ih | borrow e ih | box e ih | toChars e ih | toBytes e ih | enumNumber e ih
  | openEnumNumber e ih | knownOrDefault e ih | toOpenEnum e ih => rw [regrouped, ih h]

theorem regrouped_eq_self_iff : e.regrouped = e ↔ e.Grouped := by
  constructor
  · intro h
    rw [← h]
    exact grouped_regrouped e
  · exact regrouped_of_grouped

/-- An expression without a method on a marked one is the reading of its text. -/
theorem readsAs_of_grouped (hv : IsName v) (h : e.Grouped) : ReadsAs v (e.render v) e := by
  have hreads := readsAs_regrouped hv e
  rwa [regrouped_of_grouped h] at hreads

end RustSchema.Expr

namespace RustSchema

open RustSchema.Expr

/-- The text that a rule gives for a pair of types, around a name of the source type, has one
    reading, which is of the target type. -/
theorem a_rule_gives_its_target {rule : Rule} {source target : Ty} {v text : String}
    (hv : IsName v) (h : rule.textFor? source target v = some text) :
    ∃ e : Expr, ReadsAs v text e ∧ e.HasTy source target := by
  obtain ⟨e, he, rfl⟩ := Option.map_eq_some_iff.mp h
  have hgives : rule.Gives source target e := Rule.gives_of_expr? he
  exact ⟨e, readsAs_of_grouped hv (Rule.grouped_of_gives hgives), Rule.hasTy_of_gives hgives⟩

/-- A box of vectors behind a reference is taken out of both, and borrowed again. -/
theorem a_rule_gives_its_target_in_a_box :
    let source : Ty := .ref (.box (.vec .chars))
    let target : Ty := .ref (.vec .chars)
    IsName "v" ∧ Rule.textFor? .refBoxToRef source target "v" = some "&**v" ∧
      ∃ e : Expr, ReadsAs "v" "&**v" e ∧ e.HasTy source target := by
  intro source target
  have hv : IsName "v" := by decide
  have h : Rule.textFor? .refBoxToRef source target "v" = some "&**v" := by decide
  exact ⟨hv, h, a_rule_gives_its_target hv h⟩

end RustSchema
