/-
  RustSchema.Proofs.Interchange — what the options change about a field.

  The options choose between an enum and its open form, and between owned text or bytes and
  the shared buffer. The two types of such a choice stand in for each other
  (`Ty.Alternative`): the two sorts of enum convert into each other, and so do the defaults;
  text and bytes are seen through one view, which both convert to and from.

  `options_change_only_the_storage`: under any two options a field has no type at all, for the
  same reason, or has types of which either is the other or its alternative.
-/

import RustSchema.Proofs.Conversion.Table
import RustSchema.Proofs.Storage
import RustSchema.Ty.Value

namespace RustSchema

/-- A rule converts the source as it is, with no reference removed. -/
def ConvertsDirectly (source target : Ty) : Prop :=
  ∃ (rule : Rule) (e : Expr), ∀ value,
    convert source target value = ⟨.ok (e.render value), [.converted source target rule]⟩

theorem Rule.Gives.convertsDirectly {rule : Rule} {source target : Ty} {e : Expr}
    (h : rule.Gives source target e) : ConvertsDirectly source target :=
  ⟨rule, e, convert_of_gives h⟩

namespace Ty

/-- The default of the open form is the converted default of the enum. -/
def DefaultWidens (enum openEnum : Ty) : Prop :=
  ∃ text widened, enum.defaultValue = .ok text ∧
    (convert enum openEnum text).result = .ok widened ∧ openEnum.defaultValue = .ok widened

/-- A type, and the type that an option puts in its place. -/
inductive Alternative : Ty → Ty → Prop
  | enum (name : QualName) (default : String) :
      ConvertsDirectly (.enum name default) (.openEnum name default) →
      ConvertsDirectly (.openEnum name default) (.enum name default) →
      DefaultWidens (.enum name default) (.openEnum name default) →
      Alternative (.enum name default) (.openEnum name default)
  | buffer (owned shared view : Ty) :
      owned = .string ∧ shared = .chars ∨ owned = .vec u8 ∧ shared = .bytes →
      owned.view = .ok view → shared.view = .ok view →
      ConvertsDirectly owned view → ConvertsDirectly view owned →
      ConvertsDirectly shared view → ConvertsDirectly view shared →
      Alternative owned shared

theorem alternative_enum (name : QualName) (default : String) :
    Alternative (.enum name default) (.openEnum name default) := by
  have hwiden := Rule.Gives.widen name default default
  refine .enum name default hwiden.convertsDirectly
    (Rule.Gives.narrow name default default).convertsDirectly ⟨_, _, rfl, ?_, rfl⟩
  rw [convert_of_gives hwiden]
  simp [Expr.render, Expr.call, String.append_assoc]

theorem alternative_text : Alternative .string .chars :=
  .buffer .string .chars (.ref .str) (.inl ⟨rfl, rfl⟩) rfl rfl
    Rule.Gives.borrowString.convertsDirectly Rule.Gives.ownStr.convertsDirectly
    Rule.Gives.borrowChars.convertsDirectly Rule.Gives.shareStr.convertsDirectly

theorem alternative_bytes : Alternative (.vec u8) .bytes :=
  .buffer (.vec u8) .bytes (.ref (.slice u8)) (.inr ⟨rfl, rfl⟩) rfl rfl
    (Rule.Gives.borrowVec u8).convertsDirectly (Rule.Gives.ownSlice u8).convertsDirectly
    Rule.Gives.borrowBytes.convertsDirectly Rule.Gives.shareSlice.convertsDirectly

end Ty

namespace FieldKind

theorem ty_string (options : Options) : FieldKind.string.ty (options.bufferFor .string) =
    .ok (if options.sharedText then .chars else .string) := by
  rw [Options.bufferFor]
  cases options.sharedText <;> rfl

theorem ty_bytes (options : Options) : FieldKind.bytes.ty (options.bufferFor .bytes) =
    .ok (if options.sharedBytes then .bytes else .vec Ty.u8) := by
  rw [Options.bufferFor]
  cases options.sharedBytes <;> rfl

end FieldKind

namespace Field

/-- What a field comes to under two options. -/
inductive Interchangeable : Except Error Ty → Except Error Ty → Prop
  | refused (e : Error) : Interchangeable (.error e) (.error e)
  | same (t : Ty) : Interchangeable (.ok t) (.ok t)
  | replaced {t u : Ty} : t.Alternative u → Interchangeable (.ok t) (.ok u)
  | restored {t u : Ty} : t.Alternative u → Interchangeable (.ok u) (.ok t)

variable {field : Field} {site : Site} {scope : Scope}

/-- Two options choose alike, or one of them takes the alternative. -/
theorem interchangeable_ite {t u : Ty} (h : t.Alternative u) (replace replace' : Bool) :
    Interchangeable (.ok (if replace then u else t)) (.ok (if replace' then u else t)) := by
  cases replace <;> cases replace'
  · exact .same t
  · exact .replaced h
  · exact .restored h
  · exact .same u

/-- A shared buffer is chosen for bytes and for text, by an option each. -/
theorem interchangeable_ty {kind : FieldKind} (h : kind.isPrimitive = true)
    (options options' : Options) :
    Interchangeable (kind.ty (options.bufferFor kind)) (kind.ty (options'.bufferFor kind)) := by
  cases kind with
  | string =>
    rw [FieldKind.ty_string, FieldKind.ty_string]
    exact interchangeable_ite Ty.alternative_text _ _
  | bytes =>
    rw [FieldKind.ty_bytes, FieldKind.ty_bytes]
    exact interchangeable_ite Ty.alternative_bytes _ _
  | group | message | enum => cases h
  | _ => exact .same _

/-- The declaration, its name and its default variant are found without asking the options. -/
theorem interchangeable_named (hp : field.kind.isPrimitive = false) (hg : field.kind ≠ .group)
    (options options' : Options) :
    Interchangeable (field.elementTy site scope options).result
      (field.elementTy site scope options').result := by
  rw [result_elementTy_named hp hg, result_elementTy_named hp hg]
  cases field.reference site scope with
  | error e => exact .refused e
  | ok r =>
    obtain ⟨d, name⟩ := r
    simp only [Except.bind]
    by_cases hm : field.kind = .message
    · rw [if_pos hm, if_pos hm]
      exact .same _
    rw [if_neg hm, if_neg hm]
    cases d.defaultVariant with
    | error e => exact .refused e
    | ok default => exact interchangeable_ite (Ty.alternative_enum name default) _ _

/-- Whether a field has a type does not depend on the options, and the types it has under two
    of them are the same or stand in for each other. -/
theorem options_change_only_the_storage (field : Field) (site : Site) (scope : Scope)
    (options options' : Options) :
    Interchangeable (field.elementTy site scope options).result
      (field.elementTy site scope options').result := by
  by_cases hp : field.kind.isPrimitive = true
  · rw [result_elementTy_primitive hp, result_elementTy_primitive hp]
    exact interchangeable_ty hp options options'
  by_cases hg : field.kind = .group
  · rw [result_elementTy_group hg, result_elementTy_group hg]
    exact .same .group
  · exact interchangeable_named (by simpa using hp) hg options options'

end Field

end RustSchema
