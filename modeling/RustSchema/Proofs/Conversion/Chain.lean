/-
  RustSchema.Proofs.Conversion.Chain — one conversion after another, read as an expression.

  The second conversion puts the text of the first where its operand stands. The expression
  that is meant has the first expression there (`Expr.plug`), and the text is the text of that
  one. But it is read with methods binding tighter than marks: where the first conversion put
  a mark in front and the second calls a method on its operand, the mark goes round the call
  (`Expr.grouped_plug_iff`). Text that is borrowed and owned again becomes a reference to the
  text that was owned (`a_borrow_owned_again_is_borrowed_last`).

  `a_chain_reads_as_written_iff`: the text of two conversions reads as the second expression
  with the first in the place of its operand in every other case, and in no such case.
-/

import RustSchema.Proofs.Conversion.Domain
import RustSchema.Proofs.Conversion.Reading
import RustSchema.Proofs.TypedRuns

namespace RustSchema

namespace Expr

/-- A method is called on the operand itself. -/
def CallsOnOperand : Expr → Prop
  | .toOwned .operand | .toVec .operand => True
  | .operand => False
  | .deref e | .borrow e | .box e | .toOwned e | .toVec e | .toChars e | .toBytes e
  | .enumNumber e | .openEnumNumber e | .knownOrDefault e | .toOpenEnum e => e.CallsOnOperand

variable {inner e : Expr}

theorem isOperator_plug (h : e ≠ .operand) : (plug inner e).IsOperator ↔ e.IsOperator := by
  cases e <;> first | rfl | exact absurd rfl h

theorem callsOnOperand_method (h : e ≠ .operand) :
    ((Expr.toOwned e).CallsOnOperand ↔ e.CallsOnOperand) ∧
      ((Expr.toVec e).CallsOnOperand ↔ e.CallsOnOperand) := by
  cases e <;> first | exact ⟨.rfl, .rfl⟩ | exact absurd rfl h

/-- A grouped expression stays grouped with another in the place of its operand, unless it calls
    a method there and the other has a mark in front. -/
theorem grouped_plug_iff (hinner : inner.Grouped) (he : e.Grouped) :
    (plug inner e).Grouped ↔ ¬ (inner.IsOperator ∧ e.CallsOnOperand) := by
  induction e with
  | operand => simp [plug, CallsOnOperand, hinner]
  | toOwned e ih =>
    by_cases hop : e = .operand
    · subst hop
      simp [plug, Grouped, CallsOnOperand, hinner]
    · rw [plug, Grouped, isOperator_plug hop, ih he.2, (callsOnOperand_method hop).1]
      exact and_iff_right he.1
  | toVec e ih =>
    by_cases hop : e = .operand
    · subst hop
      simp [plug, Grouped, CallsOnOperand, hinner]
    · rw [plug, Grouped, isOperator_plug hop, ih he.2, (callsOnOperand_method hop).2]
      exact and_iff_right he.1
  | deref e ih | borrow e ih | box e ih | toChars e ih | toBytes e ih | enumNumber e ih
  | openEnumNumber e ih | knownOrDefault e ih | toOpenEnum e ih => exact ih he

end Expr

open RustSchema.Expr

/-- What a search finds is a row of the table. -/
theorem Conversion.gives_of_find? {source target : Ty} {conversion : Conversion}
    (h : find? source target = some conversion) :
    conversion.rule.Gives conversion.source target conversion.expr := by
  have houtcome := find?_outcome source target
  rw [h] at houtcome
  cases houtcome with
  | found _ _ _ hgives _ => exact hgives

/-- The text of two conversions, one after the other, has one reading. It is the second
    expression with the first in the place of its operand, unless the first has a mark in
    front and the second calls a method on its operand; then it is another one. -/
theorem a_chain_reads_as_written_iff {s t u : Ty} {v : String} {w₁ w₂ : TypedValue}
    (hv : IsName v) (h₁ : TypedValue.into ⟨v, s⟩ t = .ok w₁) (h₂ : w₁.into u = .ok w₂) :
    ∃ e₁ e₂ e : Expr, ReadsAs v w₁.value e₁ ∧
      (∀ x, IsName x → ∃ text, (convert t u x).result = .ok text ∧ ReadsAs x text e₂) ∧
      ReadsAs v w₂.value e ∧
      (e = plug e₁ e₂ ↔ ¬ (e₁.IsOperator ∧ e₂.CallsOnOperand)) := by
  obtain ⟨first, hfirst, rfl⟩ := TypedValue.into_eq_ok_iff.mp h₁
  obtain ⟨second, hsecond, rfl⟩ := TypedValue.into_eq_ok_iff.mp h₂
  have hgrouped₁ : first.expr.Grouped := Rule.grouped_of_gives (Conversion.gives_of_find? hfirst)
  have hgrouped₂ : second.expr.Grouped := Rule.grouped_of_gives (Conversion.gives_of_find? hsecond)
  refine ⟨first.expr, second.expr, (plug first.expr second.expr).regrouped,
    readsAs_of_grouped hv hgrouped₁, fun x hx => ?_, ?_, ?_⟩
  · rw [convert_of_some hsecond]
    exact ⟨_, rfl, readsAs_of_grouped hx hgrouped₂⟩
  · have hreads := readsAs_regrouped hv (plug first.expr second.expr)
    rwa [render_plug] at hreads
  · rw [regrouped_eq_self_iff, grouped_plug_iff hgrouped₁ hgrouped₂]

/-- A vector that is borrowed as a slice and copied into a buffer: the copy is made of the
    vector, and borrowed. -/
theorem a_chain_reads_as_written_iff_of_a_copied_slice :
    let first : TypedValue := ⟨"&v", .ref (.slice Ty.u8)⟩
    let second : TypedValue :=
      ⟨"<::bytes::Bytes as ::std::convert::From<_>>::from(&v.to_vec())", .bytes⟩
    IsName "v" ∧ TypedValue.into ⟨"v", .vec Ty.u8⟩ first.ty = .ok first ∧
      first.into .bytes = .ok second ∧
      ∃ e₁ e₂ e : Expr, ReadsAs "v" first.value e₁ ∧
        (∀ x, IsName x → ∃ text, (convert first.ty .bytes x).result = .ok text ∧
          ReadsAs x text e₂) ∧
        ReadsAs "v" second.value e ∧
        (e = plug e₁ e₂ ↔ ¬ (e₁.IsOperator ∧ e₂.CallsOnOperand)) := by
  intro first second
  have hv : IsName "v" := by decide
  have h₁ : TypedValue.into ⟨"v", .vec Ty.u8⟩ first.ty = .ok first := rfl
  have h₂ : first.into .bytes = .ok second := rfl
  exact ⟨hv, h₁, h₂, a_chain_reads_as_written_iff hv h₁ h₂⟩

/-- Text that is borrowed and then owned is read as a reference to text that is owned, and not
    as the reference owned. -/
theorem a_borrow_owned_again_is_borrowed_last :
    let first : TypedValue := ⟨"&v", .ref .str⟩
    let second : TypedValue := ⟨"&v.to_owned()", .string⟩
    IsName "v" ∧ TypedValue.into ⟨"v", .string⟩ (.ref .str) = .ok first ∧
      first.into .string = .ok second ∧ ReadsAs "v" first.value (.borrow .operand) ∧
      (∀ x, IsName x → ∃ text, (convert (.ref .str) .string x).result = .ok text ∧
        ReadsAs x text (.toOwned .operand)) ∧
      ReadsAs "v" second.value (.borrow (.toOwned .operand)) ∧
      ¬ ReadsAs "v" second.value (plug (.borrow .operand) (.toOwned .operand)) := by
  intro first second
  have hv : IsName "v" := by decide
  have hborrow : (Expr.borrow .operand).Grouped := trivial
  have hown : (Expr.toOwned .operand).Grouped := ⟨id, trivial⟩
  have hsecond : ReadsAs "v" second.value (.borrow (.toOwned .operand)) :=
    readsAs_of_grouped (e := .borrow (.toOwned .operand)) hv hown
  refine ⟨hv, rfl, rfl, readsAs_of_grouped hv hborrow, fun x hx => ?_, hsecond, ?_⟩
  · rw [convert_of_gives .ownStr]
    exact ⟨_, rfl, readsAs_of_grouped hx hown⟩
  · intro hplug
    have heq := (hplug _).mp ((hsecond _).mpr rfl)
    cases heq

end RustSchema
