/-
  RustSchema.Proofs.Conversion.Coercion — conversions that look behind a reference.

  The search for a rule removes references from the source, but the text that it writes is
  about the operand as it is, behind all of its references. What closes the gap is coercion: a
  reference to a type is a reference to everything that dereferencing leads to from there
  (`Ty.Reaches`), a borrow sees as deep, and removing references is dereferencing
  (`Ty.reaches_of_behind`).

  `Expr.HasCoercedTy` types the stars, the borrows and the boxes that the rules write, with
  coercion. An operand behind a reference has reference types and no other
  (`Expr.hasCoercedTy_operand_iff`). So a star or a borrow of the operand has the type that the
  rule leads to, however many references were removed, and a box has it only where the rule
  boxes a reference: `a_look_behind_references_is_coerced`. A reference to a message is boxed
  as it is, where a box of the message was asked for
  (`a_reference_is_boxed_for_what_it_refers_to`).
-/

import Mathlib.Logic.Relation
import RustSchema.Proofs.Conversion.Domain
import RustSchema.Proofs.Conversion.Reading

namespace RustSchema

namespace Ty

/-- One dereference: of a reference, of a box, or of a buffer to the view of what it holds. -/
inductive Derefs : Ty → Ty → Prop
  | ref (x : Ty) : Derefs (.ref x) x
  | box (x : Ty) : Derefs (.box x) x
  | string : Derefs .string .str
  | chars : Derefs .chars .str
  | vec (x : Ty) : Derefs (.vec x) (.slice x)
  | bytes : Derefs .bytes (.slice Ty.u8)

/-- Any number of dereferences, none included. -/
def Reaches : Ty → Ty → Prop := Relation.ReflTransGen Derefs

variable {x s t : Ty}

theorem Reaches.step (h : s.Reaches t) (hderef : t.Derefs x) : s.Reaches x := h.tail hderef

theorem reaches_ref_iff : (Ty.ref x).Reaches t ↔ t = .ref x ∨ x.Reaches t := by
  constructor
  · intro h
    rcases h.cases_head with rfl | ⟨inner, hderef, hinner⟩
    · exact .inl rfl
    · cases hderef
      exact .inr hinner
  · rintro (rfl | h)
    · exact .refl
    · exact .head (.ref x) h

/-- Removing references is dereferencing. -/
theorem reaches_of_behind {n : Nat} (h : s.behind n = some t) : s.Reaches t := by
  induction n generalizing s with
  | zero =>
    cases h
    exact .refl
  | succ n ih =>
    cases s with
    | ref inner => exact .head (.ref inner) (ih h)
    | _ => cases h

end Ty

namespace Expr

/-- The types of an expression whose operand has type `source`, up to coercion. Whether a value
    may be moved out of its place is left open. -/
inductive HasCoercedTy (source : Ty) : Expr → Ty → Prop
  | operand : HasCoercedTy source .operand source
  | derefRef {e : Expr} {x : Ty} :
      HasCoercedTy source e (.ref x) → HasCoercedTy source (.deref e) x
  | derefBox {e : Expr} {x : Ty} :
      HasCoercedTy source e (.box x) → HasCoercedTy source (.deref e) x
  | borrow {e : Expr} {x y : Ty} :
      HasCoercedTy source e x → x.Reaches y → HasCoercedTy source (.borrow e) (.ref y)
  | box {e : Expr} {x : Ty} : HasCoercedTy source e x → HasCoercedTy source (.box e) (.box x)
  | coerce {e : Expr} {x y : Ty} :
      HasCoercedTy source e (.ref x) → x.Reaches y → HasCoercedTy source e (.ref y)

variable {x source t : Ty} {e : Expr}

/-- Coercion leads from references to references. -/
theorem hasCoercedTy_operand_iff :
    HasCoercedTy (.ref x) .operand t ↔ ∃ y, t = .ref y ∧ x.Reaches y := by
  constructor
  · intro h
    -- along the coercions, of which the operand may pass through several
    generalize hoperand : Expr.operand = e at h
    induction h with
    | operand => exact ⟨x, rfl, .refl⟩
    | coerce _ hreaches ih =>
      obtain ⟨z, hz, hxz⟩ := ih hoperand
      cases hz
      exact ⟨_, rfl, hxz.trans hreaches⟩
    | derefRef | derefBox | borrow | box => cases hoperand
  · rintro ⟨y, rfl, hreaches⟩
    exact .coerce .operand hreaches

/-- A box is no reference, so it is not coerced. -/
theorem hasCoercedTy_box_iff :
    HasCoercedTy source (.box e) (.box t) ↔ HasCoercedTy source e t := by
  constructor
  · intro h
    cases h with
    | box h => exact h
  · exact .box

/-- The operand has every reference type that is found behind its own. -/
theorem hasCoercedTy_operand_of_behind {n : Nat} (h : (Ty.ref x).behind n = some (.ref t)) :
    HasCoercedTy (.ref x) .operand (.ref t) := by
  have hinner : x.behind n = some t := behind_ref h
  exact hasCoercedTy_operand_iff.mpr ⟨t, rfl, Ty.reaches_of_behind hinner⟩

/-- A borrow sees what is behind the references, and what that dereferences to. -/
theorem hasCoercedTy_borrow_of_behind {s : Ty} {n : Nat} (h : (Ty.ref x).behind n = some s)
    (hderef : s.Derefs t) : HasCoercedTy (.ref x) (.borrow .operand) (.ref t) :=
  .borrow .operand ((Ty.reaches_of_behind h).step hderef)

/-- A star takes what is behind the references out of its box. -/
theorem hasCoercedTy_deref_of_behind {n : Nat} (h : (Ty.ref x).behind n = some (.box t)) :
    HasCoercedTy (.ref x) (.deref .operand) t := by
  have hbox : x.Reaches (.box t) := by
    rcases Ty.reaches_ref_iff.mp (Ty.reaches_of_behind h) with heq | hbox
    · cases heq
    · exact hbox
  exact .derefRef (hasCoercedTy_operand_iff.mpr ⟨t, rfl, hbox.step (.box t)⟩)

/-- The operand is boxed as the reference that it is. -/
theorem hasCoercedTy_box_of_behind {s : Ty} {n : Nat} (h : (Ty.ref x).behind n = some s) :
    HasCoercedTy (.ref x) (.box .operand) (.box s) ↔ ∃ y, s = .ref y := by
  rw [hasCoercedTy_box_iff]
  constructor
  · intro hs
    obtain ⟨y, hy, -⟩ := hasCoercedTy_operand_iff.mp hs
    exact ⟨y, hy⟩
  · rintro ⟨y, rfl⟩
    exact hasCoercedTy_operand_of_behind h

end Expr

open RustSchema.Expr

/-- The rules that put marks in front of the operand, or box it, and do nothing else. -/
def Rule.marking : List Rule :=
  [.deref, .box, .unbox, .refBoxToRef, .borrowStr, .borrowAsSlice, .vecRefToSliceRef]

namespace Rule

variable {rule : Rule} {x s target : Ty} {e : Expr} {n : Nat}

/-- What such a rule gives for a type behind the references of the operand has the target
    type, if it does not box. -/
theorem hasCoercedTy_of_gives (h : rule.Gives s target e) (hbehind : (Ty.ref x).behind n = some s)
    (hrule : rule ∈ marking) (hbox : rule ≠ .box) : e.HasCoercedTy (.ref x) target := by
  cases h with
  | refBoxToRef =>
    have hoperand := hasCoercedTy_operand_of_behind hbehind
    exact .borrow (.derefBox (.derefRef hoperand)) .refl
  | deref => exact .derefRef (hasCoercedTy_operand_of_behind hbehind)
  | box => exact absurd rfl hbox
  | unbox => exact hasCoercedTy_deref_of_behind hbehind
  | borrowString => exact hasCoercedTy_borrow_of_behind hbehind .string
  | borrowChars => exact hasCoercedTy_borrow_of_behind hbehind .chars
  | borrowVec y => exact hasCoercedTy_borrow_of_behind hbehind (.vec y)
  | borrowBytes => exact hasCoercedTy_borrow_of_behind hbehind .bytes
  | borrowVecRef y =>
    have hvec : (Ty.ref x).behind (n + 1) = some (.vec y) := behind_ref hbehind
    exact hasCoercedTy_borrow_of_behind hvec (.vec y)
  | identity | borrowStringRef | ownStr | shareStr | ownSlice | shareSlice | enumNumber
  | openEnumNumber | enumRefNumber | openEnumRefNumber | narrow | widen =>
    exact absurd hrule (by decide)

theorem hasCoercedTy_iff_of_gives (h : rule.Gives s target e)
    (hbehind : (Ty.ref x).behind n = some s) (hrule : rule ∈ marking) :
    e.HasCoercedTy (.ref x) target ↔ (rule = .box → ∃ y, s = .ref y) := by
  by_cases hbox : rule = .box
  · subst hbox
    cases h with
    | box => rw [hasCoercedTy_box_of_behind hbehind, forall_prop_of_true rfl]
  · have hty := hasCoercedTy_of_gives h hbehind hrule hbox
    exact iff_of_true hty fun h => absurd h hbox

end Rule

/-- A value behind references is converted by a rule that marks or boxes it, for its own type
    or for what is behind some of the references. The text has one reading. It has the target
    type, unless the rule boxes a type that is no reference, and then it has not. -/
theorem a_look_behind_references_is_coerced {x s target : Ty} {rule : Rule} {v text : String}
    (hv : IsName v)
    (hconvert : convert (.ref x) target v = ⟨.ok text, [.converted s target rule]⟩)
    (hrule : rule ∈ Rule.marking) :
    ∃ e : Expr, ReadsAs v text e ∧
      (e.HasCoercedTy (.ref x) target ↔ (rule = .box → ∃ y, s = .ref y)) := by
  rcases convert_cases (.ref x) target v with
    ⟨n, s', rule', e, hbehind, hgives, -, hfound⟩ | ⟨-, hmissing⟩
  · rw [hconvert] at hfound
    cases hfound
    refine ⟨e, readsAs_of_grouped hv (Rule.grouped_of_gives hgives), ?_⟩
    exact Rule.hasCoercedTy_iff_of_gives hgives hbehind hrule
  · rw [hconvert] at hmissing
    cases hmissing

/-- A boxed message behind two references: the search removes one of them, and coercion takes
    the operand through it. -/
theorem a_look_behind_references_is_coerced_in_a_box :
    let message : Ty := .message { ident := "M" }
    let source : Ty := .ref (.ref (.box message))
    let target : Ty := .ref message
    IsName "v" ∧
      convert source target "v" =
        ⟨.ok "&**v", [.converted (.ref (.box message)) target .refBoxToRef]⟩ ∧
      Rule.refBoxToRef ∈ Rule.marking ∧
      ∃ e : Expr, ReadsAs "v" "&**v" e ∧ e.HasCoercedTy source target := by
  intro message source target
  have hv : IsName "v" := by decide
  have hconvert : convert source target "v" =
      ⟨.ok "&**v", [.converted (.ref (.box message)) target .refBoxToRef]⟩ := rfl
  have hrule : Rule.refBoxToRef ∈ Rule.marking := by decide
  obtain ⟨e, hreads, hty⟩ := a_look_behind_references_is_coerced hv hconvert hrule
  exact ⟨hv, hconvert, hrule, e, hreads, hty.mpr nofun⟩

/-- A reference to a message, asked for as a box of the message, is put into the box itself. -/
theorem a_reference_is_boxed_for_what_it_refers_to :
    let message : Ty := .message { ident := "M" }
    let text := "::std::boxed::Box::new(v)"
    IsName "v" ∧ (∀ rule : Rule, rule.expr? (.ref message) (.box message) = none) ∧
      convert (.ref message) (.box message) "v" =
        ⟨.ok text, [.converted message (.box message) .box]⟩ ∧
      ReadsAs "v" text (.box .operand) ∧
      (Expr.box .operand).HasCoercedTy (.ref message) (.box (.ref message)) ∧
      ¬ (Expr.box .operand).HasCoercedTy (.ref message) (.box message) := by
  intro message text
  have hv : IsName "v" := by decide
  refine ⟨hv, ?_, rfl, readsAs_of_grouped (e := .box .operand) hv trivial, .box .operand, ?_⟩
  · intro rule
    cases rule <;> rfl
  · intro hty
    obtain ⟨y, hy, -⟩ := hasCoercedTy_operand_iff.mp (hasCoercedTy_box_iff.mp hty)
    simp [message] at hy

end RustSchema
