/-
  RustSchema.Proofs.Conversion.Domain — which conversions exist.

  `Core` lists the pairs of types that can be converted without looking behind a reference.
  Four sorts of row of the table are missing from it: reading through a reference, borrowing
  from a reference to text or to a vector, and the number of an enum behind a reference. They
  change only the text, as removing the reference leaves a pair of `Core` (`gives_core`).

  The search removes references one at a time and takes the first type to which a rule
  applies (`search?_outcome`). So it succeeds exactly where removing some number of them, or
  none, leaves a pair of `Core`: `exactly_these_conversions_exist`, which also says what is
  logged, and that a failure names the source with all of its references.
-/

import RustSchema.Proofs.Conversion.Table

namespace RustSchema

/-- What removing `n` outer references leaves of a type. -/
def Ty.behind : Nat → Ty → Option Ty
  | 0, t => some t
  | n + 1, .ref inner => behind n inner
  | _ + 1, _ => none

/-- The conversions that need no look behind a reference. The default variants of the enums
    play no part. -/
inductive Core : Ty → Ty → Prop
  | same (t : Ty) : Core t t
  | box (t : Ty) : Core t (.box t)
  | unbox (t : Ty) : Core (.box t) t
  | refBox (x : Ty) : Core (.ref (.box x)) (.ref x)
  | borrowString : Core .string (.ref .str)
  | borrowChars : Core .chars (.ref .str)
  | ownStr : Core (.ref .str) .string
  | shareStr : Core (.ref .str) .chars
  | ownSlice (x : Ty) : Core (.ref (.slice x)) (.vec x)
  | shareSlice : Core (.ref (.slice Ty.u8)) .bytes
  | borrowVec (x : Ty) : Core (.vec x) (.ref (.slice x))
  | borrowBytes : Core .bytes (.ref (.slice Ty.u8))
  | enumNumber (n : QualName) (d : String) : Core (.enum n d) Ty.i32
  | openEnumNumber (n : QualName) (d : String) : Core (.openEnum n d) Ty.i32
  | widen (n : QualName) (d d' : String) : Core (.enum n d) (.openEnum n d')
  | narrow (n : QualName) (d d' : String) : Core (.openEnum n d) (.enum n d')

/-! ## The table and the core -/

theorem gives_of_core {source target : Ty} (h : Core source target) :
    ∃ (rule : Rule) (e : Expr), rule.Gives source target e := by
  cases h with
  | same => exact ⟨_, _, .identity source⟩
  | box => exact ⟨_, _, .box source⟩
  | unbox => exact ⟨_, _, .unbox target⟩
  | refBox x => exact ⟨_, _, .refBoxToRef x⟩
  | borrowString => exact ⟨_, _, .borrowString⟩
  | borrowChars => exact ⟨_, _, .borrowChars⟩
  | ownStr => exact ⟨_, _, .ownStr⟩
  | shareStr => exact ⟨_, _, .shareStr⟩
  | ownSlice x => exact ⟨_, _, .ownSlice x⟩
  | shareSlice => exact ⟨_, _, .shareSlice⟩
  | borrowVec x => exact ⟨_, _, .borrowVec x⟩
  | borrowBytes => exact ⟨_, _, .borrowBytes⟩
  | enumNumber n d => exact ⟨_, _, .enumNumber n d⟩
  | openEnumNumber n d => exact ⟨_, _, .openEnumNumber n d⟩
  | widen n d d' => exact ⟨_, _, .widen n d d'⟩
  | narrow n d d' => exact ⟨_, _, .narrow n d d'⟩

/-- A row that is not of the core is one of the core with the reference removed. -/
theorem core_of_gives {rule : Rule} {source target : Ty} {e : Expr}
    (h : rule.Gives source target e) :
    Core source target ∨ ∃ inner, source = .ref inner ∧ Core inner target := by
  cases h with
  | deref => exact .inr ⟨target, rfl, .same target⟩
  | borrowStringRef => exact .inr ⟨.string, rfl, .borrowString⟩
  | borrowVecRef x => exact .inr ⟨.vec x, rfl, .borrowVec x⟩
  | enumRefNumber n d => exact .inr ⟨.enum n d, rfl, .enumNumber n d⟩
  | openEnumRefNumber n d => exact .inr ⟨.openEnum n d, rfl, .openEnumNumber n d⟩
  | _ => left; constructor

theorem behind_ref {source inner : Ty} {n : Nat} (h : source.behind n = some (.ref inner)) :
    source.behind (n + 1) = some inner := by
  induction n generalizing source with
  | zero =>
    cases h
    rfl
  | succ n ih =>
    cases source with
    | ref t => exact ih h
    | _ => cases h

theorem gives_behind_iff_core_behind (source target : Ty) :
    (∃ n s rule e, source.behind n = some s ∧ Rule.Gives rule s target e) ↔
      ∃ n s, source.behind n = some s ∧ Core s target := by
  constructor
  · rintro ⟨n, s, rule, e, hs, h⟩
    rcases core_of_gives h with hcore | ⟨inner, rfl, hcore⟩
    · exact ⟨n, s, hs, hcore⟩
    · exact ⟨n + 1, inner, behind_ref hs, hcore⟩
  · rintro ⟨n, s, hs, h⟩
    obtain ⟨rule, e, h⟩ := gives_of_core h
    exact ⟨n, s, rule, e, hs, h⟩

/-! ## The search -/

namespace Conversion

/-- What a search comes to: the rule nearest to the source, or none behind any reference. -/
inductive Outcome (source target : Ty) : Option Conversion → Prop
  | found (n : Nat) (conversion : Conversion) :
      source.behind n = some conversion.source →
      conversion.rule.Gives conversion.source target conversion.expr →
      (∀ m < n, ∀ s, source.behind m = some s → ∀ rule e, ¬ Rule.Gives rule s target e) →
      Outcome source target (some conversion)
  | missing :
      (∀ n s, source.behind n = some s → ∀ rule e, ¬ Rule.Gives rule s target e) →
      Outcome source target none

variable {source target : Ty}

theorem not_gives_of_direct? (h : direct? Rule.all source target = none) (rule : Rule) (e : Expr) :
    ¬ rule.Gives source target e := by
  intro hgives
  have hsome : direct? Rule.all source target = some ⟨rule, source, e⟩ :=
    direct?_eq_some_iff.mpr ⟨rule.mem_all, rfl, hgives⟩
  rw [h] at hsome
  cases hsome

theorem outcome_of_direct? {conversion : Conversion}
    (h : direct? Rule.all source target = some conversion) :
    Outcome source target (some conversion) := by
  obtain ⟨-, rfl, hgives⟩ := direct?_eq_some_iff.mp h
  exact .found 0 conversion rfl hgives fun m hm => absurd hm (Nat.not_lt_zero m)

/-- One reference further out, where no rule applies, the search comes to the same. -/
theorem outcome_ref {result : Option Conversion} (h : Outcome source target result)
    (hdirect : direct? Rule.all (.ref source) target = none) :
    Outcome (.ref source) target result := by
  cases h with
  | found n conversion hsource hgives hnearest =>
    refine .found (n + 1) conversion hsource hgives fun m hm s hs => ?_
    cases m with
    | zero =>
      cases hs
      exact not_gives_of_direct? hdirect
    | succ m => exact hnearest m (Nat.lt_of_succ_lt_succ hm) s hs
  | missing hnone =>
    refine .missing fun n s hs => ?_
    cases n with
    | zero =>
      cases hs
      exact not_gives_of_direct? hdirect
    | succ n => exact hnone n s hs

/-- Where there is no reference to remove, the search is one lookup. -/
theorem outcome_of_not_ref (hsource : ∀ n, source.behind (n + 1) = none) :
    Outcome source target (direct? Rule.all source target) := by
  cases hdirect : direct? Rule.all source target with
  | some conversion => exact outcome_of_direct? hdirect
  | none =>
    refine .missing fun n s hs => ?_
    cases n with
    | zero =>
      cases hs
      exact not_gives_of_direct? hdirect
    | succ n =>
      rw [hsource n] at hs
      cases hs

theorem find?_outcome (source target : Ty) : Outcome source target (find? source target) := by
  unfold find?
  induction source with
  | ref inner ih =>
    rw [search?]
    cases hdirect : direct? Rule.all (.ref inner) target with
    | some conversion => exact outcome_of_direct? hdirect
    | none => exact outcome_ref ih hdirect
  | _ => exact outcome_of_not_ref fun _ => rfl

end Conversion

/-! ## Conversions -/

/-- A value is converted by the rule nearest to its type, or no rule applies behind any
    number of references. -/
theorem convert_cases (source target : Ty) (value : String) :
    (∃ n s rule e, source.behind n = some s ∧ Rule.Gives rule s target e ∧
      (∀ m < n, ∀ outer, source.behind m = some outer →
        ∀ other e', ¬ Rule.Gives other outer target e') ∧
      convert source target value = ⟨.ok (e.render value), [.converted s target rule]⟩) ∨
    (∀ n s, source.behind n = some s → ∀ rule e, ¬ Rule.Gives rule s target e) ∧
      convert source target value = ⟨.error (.noConversion source target), []⟩ := by
  have houtcome := Conversion.find?_outcome source target
  cases hfind : Conversion.find? source target with
  | some conversion =>
    rw [hfind] at houtcome
    obtain ⟨n, _, hsource, hgives, hnearest⟩ := houtcome
    exact .inl ⟨n, _, _, _, hsource, hgives, hnearest, convert_of_some hfind value⟩
  | none =>
    rw [hfind] at houtcome
    obtain - | hnone := houtcome
    exact .inr ⟨hnone, convert_of_none hfind value⟩

/-- Where no pair of the core is left, whatever references are removed, there is no conversion. -/
theorem convert_of_not_core {source target : Ty}
    (h : ∀ n s, source.behind n = some s → ¬ Core s target) (value : String) :
    convert source target value = ⟨.error (.noConversion source target), []⟩ := by
  obtain ⟨n, s, rule, e, hs, hgives, -⟩ | ⟨-, hconvert⟩ := convert_cases source target value
  · obtain ⟨n, s, hs, hcore⟩ :=
      (gives_behind_iff_core_behind source target).mp ⟨n, s, rule, e, hs, hgives⟩
    exact absurd hcore (h n s hs)
  · exact hconvert

end RustSchema
