/-
  RustSchema.Proofs.Conversion.Table — the conversion rules as one table.

  `Rule.Gives` lists for each rule the pairs of types it applies to, with the expression it
  gives, and `expr?_eq_some_iff` says that the rules do what the table says. No two rows of
  different rules fit one pair of types, as one of the types would have to contain itself
  (`gives_unique`). So a lookup in a list of rules depends on which rules are in it and not
  on their order (`direct?_eq_some_iff`), and neither does the search behind references.

  `the_rules_are_exclusive`: at most one rule gives a text for a pair of types, and every
  order of the rules gives the same text and the same log.
-/

import RustSchema.Conversion

namespace RustSchema

namespace Rule

/-- The rows of the table: the rule, the types it leads between, and the expression. -/
inductive Gives : Rule → Ty → Ty → Expr → Prop
  | identity (t : Ty) : Gives .identity t t .operand
  | refBoxToRef (x : Ty) :
      Gives .refBoxToRef (.ref (.box x)) (.ref x) (.borrow (.deref (.deref .operand)))
  | deref (x : Ty) : Gives .deref (.ref x) x (.deref .operand)
  | box (x : Ty) : Gives .box x (.box x) (.box .operand)
  | unbox (x : Ty) : Gives .unbox (.box x) x (.deref .operand)
  | borrowString : Gives .borrowStr .string (.ref .str) (.borrow .operand)
  | borrowChars : Gives .borrowStr .chars (.ref .str) (.borrow .operand)
  | borrowStringRef : Gives .stringRefAndStrRef (.ref .string) (.ref .str) (.borrow .operand)
  | ownStr : Gives .stringRefAndStrRef (.ref .str) .string (.toOwned .operand)
  | shareStr : Gives .strRefToChars (.ref .str) .chars (.toChars (.toOwned .operand))
  | ownSlice (x : Ty) : Gives .sliceRefToVec (.ref (.slice x)) (.vec x) (.toVec .operand)
  | shareSlice : Gives .sliceRefToBytes (.ref (.slice Ty.u8)) .bytes (.toBytes (.toVec .operand))
  | borrowVec (x : Ty) : Gives .borrowAsSlice (.vec x) (.ref (.slice x)) (.borrow .operand)
  | borrowBytes : Gives .borrowAsSlice .bytes (.ref (.slice Ty.u8)) (.borrow .operand)
  | borrowVecRef (x : Ty) :
      Gives .vecRefToSliceRef (.ref (.vec x)) (.ref (.slice x)) (.borrow .operand)
  | enumNumber (n : QualName) (d : String) :
      Gives .enumToI32 (.enum n d) Ty.i32 (.enumNumber (.borrow .operand))
  | openEnumNumber (n : QualName) (d : String) :
      Gives .enumToI32 (.openEnum n d) Ty.i32 (.openEnumNumber (.borrow .operand))
  | enumRefNumber (n : QualName) (d : String) :
      Gives .enumToI32 (.ref (.enum n d)) Ty.i32 (.enumNumber .operand)
  | openEnumRefNumber (n : QualName) (d : String) :
      Gives .enumToI32 (.ref (.openEnum n d)) Ty.i32 (.openEnumNumber .operand)
  | narrow (n : QualName) (d d' : String) :
      Gives .openEnumToEnum (.openEnum n d) (.enum n d') (.knownOrDefault (.borrow .operand))
  | widen (n : QualName) (d d' : String) :
      Gives .enumToOpenEnum (.enum n d) (.openEnum n d') (.toOpenEnum .operand)

variable {rule rule' : Rule} {source target : Ty} {e e' : Expr}

theorem gives_of_expr? (h : rule.expr? source target = some e) : rule.Gives source target e := by
  cases rule
  all_goals
    simp only [expr?, identity?, refBoxToRef?, deref?, box?, unbox?, borrowStr?,
      stringRefAndStrRef?, strRefToChars?, sliceRefToVec?, sliceRefToBytes?, borrowAsSlice?,
      vecRefToSliceRef?, enumToI32?, openEnumToEnum?, enumToOpenEnum?] at h
    repeat' split at h
    all_goals cases h
    all_goals subst_vars
    all_goals constructor

theorem expr?_of_gives (h : rule.Gives source target e) : rule.expr? source target = some e := by
  cases h <;> simp [expr?, identity?, refBoxToRef?, deref?, box?, unbox?, borrowStr?,
    stringRefAndStrRef?, strRefToChars?, sliceRefToVec?, sliceRefToBytes?, borrowAsSlice?,
    vecRefToSliceRef?, enumToI32?, openEnumToEnum?, enumToOpenEnum?]

/-- Rows of two rules never fit one pair of types: the types differ in shape, or one of them
    would contain itself. -/
theorem gives_unique (h : rule.Gives source target e) (h' : rule'.Gives source target e') :
    rule = rule' ∧ e = e' := by
  cases h <;> cases h' <;> exact ⟨rfl, rfl⟩

theorem expr?_eq_some_iff : rule.expr? source target = some e ↔ rule.Gives source target e :=
  ⟨gives_of_expr?, expr?_of_gives⟩

theorem textFor?_isSome_iff {value : String} :
    (rule.textFor? source target value).isSome = true ↔ ∃ e, rule.Gives source target e := by
  simp [textFor?, Option.isSome_iff_exists, expr?_eq_some_iff]

theorem all_nodup : all.Nodup := by decide

theorem length_le_one {l : List Rule} (h : l.Nodup) (h' : ∀ a ∈ l, ∀ b ∈ l, a = b) :
    l.length ≤ 1 := by
  rcases l with _ | ⟨a, _ | ⟨b, rest⟩⟩
  · exact Nat.zero_le 1
  · exact Nat.le_refl 1
  · have hab : a = b := h' a (by simp) b (by simp)
    simp [hab] at h

end Rule

/-! ## Order -/

namespace Conversion

variable {rules rules' : List Rule} {source target : Ty}

theorem direct?_eq_some_iff {conversion : Conversion} :
    direct? rules source target = some conversion ↔
      conversion.rule ∈ rules ∧ conversion.source = source ∧
        conversion.rule.Gives source target conversion.expr := by
  have sound : ∀ {c : Conversion}, direct? rules source target = some c →
      c.rule ∈ rules ∧ c.source = source ∧ c.rule.Gives source target c.expr := by
    intro c h
    obtain ⟨rule, hmem, hrule⟩ := List.exists_of_findSome?_eq_some h
    obtain ⟨e, he, rfl⟩ := Option.map_eq_some_iff.mp hrule
    exact ⟨hmem, rfl, Rule.gives_of_expr? he⟩
  refine ⟨sound, ?_⟩
  rintro ⟨hmem, rfl, hgives⟩
  cases hdirect : direct? rules conversion.source target with
  | none =>
    have := List.findSome?_eq_none_iff.mp hdirect _ hmem
    rw [Rule.expr?_of_gives hgives] at this
    cases this
  | some c =>
    -- the rule found first is the only one there is
    obtain ⟨_, hsource, hgives'⟩ := sound hdirect
    obtain ⟨hrule, hexpr⟩ := Rule.gives_unique hgives' hgives
    cases c
    cases conversion
    simp_all

theorem direct?_congr (h : ∀ rule, rule ∈ rules ↔ rule ∈ rules') (source target : Ty) :
    direct? rules source target = direct? rules' source target := by
  apply Option.ext
  intro conversion
  rw [direct?_eq_some_iff, direct?_eq_some_iff, h]

/-- The search gives the same whatever the order of the rules. -/
theorem search?_congr (h : ∀ rule, rule ∈ rules ↔ rule ∈ rules') (target source : Ty) :
    search? rules target source = search? rules' target source := by
  induction source with
  | ref inner ih => rw [search?, search?, direct?_congr h, ih]
  | _ => exact direct?_congr h _ target

/-- A rule that applies to the pair itself is the one that converts. -/
theorem find?_of_gives {rule : Rule} {e : Expr} (h : rule.Gives source target e) :
    find? source target = some ⟨rule, source, e⟩ := by
  have hdirect : direct? Rule.all source target = some ⟨rule, source, e⟩ :=
    direct?_eq_some_iff.mpr ⟨rule.mem_all, rfl, h⟩
  unfold find?
  cases source with
  | ref inner => rw [search?, hdirect, Option.some_or]
  | _ => exact hdirect

end Conversion

theorem convert_of_gives {rule : Rule} {source target : Ty} {e : Expr}
    (h : rule.Gives source target e) (value : String) :
    convert source target value = ⟨.ok (e.render value), [.converted source target rule]⟩ :=
  convert_of_some (Conversion.find?_of_gives h) value

/-- At most one rule gives a text for a pair of types; so every order of the rules gives the
    same text, behind references too, and the same log. -/
theorem the_rules_are_exclusive (source target : Ty) (value : String) :
    (Rule.all.filter fun rule => (rule.textFor? source target value).isSome).length ≤ 1 ∧
      ∀ rules : List Rule, rules.Perm Rule.all →
        tryConvertBy rules source target value = tryConvertBy Rule.all source target value := by
  constructor
  · apply Rule.length_le_one (Rule.all_nodup.filter _)
    intro rule hrule rule' hrule'
    obtain ⟨e, h⟩ := Rule.textFor?_isSome_iff.mp (List.mem_filter.mp hrule).2
    obtain ⟨e', h'⟩ := Rule.textFor?_isSome_iff.mp (List.mem_filter.mp hrule').2
    exact (Rule.gives_unique h h').1
  · intro rules hperm
    rw [tryConvertBy, tryConvertBy, Conversion.search?_congr fun rule => hperm.mem_iff]

/-- Tried in the opposite order, the rules still unbox what is behind two references. -/
theorem the_rules_are_exclusive_reversed :
    Rule.all.reverse.Perm Rule.all ∧
      tryConvertBy Rule.all.reverse (.ref (.ref (.box .bool))) .bool "v" =
        (some "*v", [.converted (.box .bool) .bool .unbox]) :=
  ⟨List.reverse_perm _,
    ((the_rules_are_exclusive (.ref (.ref (.box .bool))) .bool "v").2 _ (List.reverse_perm _)).trans
      (by decide)⟩

end RustSchema
