/-
  RustSchema.Proofs.StoredValues — what can be done with the value that a field stores.

  A field is stored in its element type or in a wrapper around it, so it has a stored type
  exactly where it has an element type (`result_storedTy`). A wrapper has a default, is cleared
  and is iterated whatever it holds, and what a loop over it yields is read by one star; its
  content is reached as a payload where it is optional, and not where it is a sequence
  (`Wrapper.keeps_wrap`). Without a wrapper it depends on the kind of the field: its element
  types are those of `FieldKind.Element`, of which a group has no values at all, and a message
  has a default but is not cleared in place (`FieldKind.Element.bare`).

  `what_a_stored_value_allows`: both, for the stored type of every field.
-/

import RustSchema.Proofs.Conversion.Table
import RustSchema.Proofs.Storage
import RustSchema.Ty.Value

namespace RustSchema

/-! ## Wrapped values -/

namespace Wrapper

/-- The wrapper holds one value or none. -/
def isOptional : Wrapper → Bool
  | .option | .singularField | .singularPtrField => true
  | .plain | .vec | .repeatedField => false

/-- What a wrapper of type `t` lets generated code do with the elements, of type `e`. -/
structure Keeps (wrapper : Wrapper) (e t : Ty) : Prop where
  hasDefault : ∃ text, t.defaultValue = .ok text
  isCleared : ∀ v, ∃ statement, t.clear v = .ok statement
  iterates : t.iteration = .ok (.ref e)
  /-- What a loop yields is turned into an element by reading through it. -/
  isRead : ∀ x, (convert (.ref e) e x).result = .ok ("*" ++ x)
  opens : t.payload = if wrapper.isOptional then .ok e else .error (.unanswerable .payload t)

/-- Whatever is in it, a value can be wrapped, read and cleared. -/
theorem keeps_wrap {wrapper : Wrapper} (h : wrapper ≠ .plain) (e : Ty) :
    wrapper.Keeps e (wrapper.wrap e) := by
  have hread : ∀ x, (convert (.ref e) e x).result = .ok ("*" ++ x) := fun x => by
    rw [convert_of_gives (.deref e)]
    rfl
  cases wrapper with
  | plain => exact absurd rfl h
  | _ => exact ⟨⟨_, rfl⟩, fun _ => ⟨_, rfl⟩, rfl, hread, rfl⟩

end Wrapper

/-! ## Values without a wrapper -/

namespace FieldKind

/-- The types of one value of a field of the kind. -/
inductive Element : FieldKind → Ty → Prop
  | primitive {kind : FieldKind} {buffer : Buffer} {t : Ty} :
      kind.isPrimitive = true → kind.ty buffer = .ok t → Element kind t
  | group : Element .group .group
  | message (name : QualName) : Element .message (.message name)
  | enum (name : QualName) (default : String) : Element .enum (.enum name default)
  | openEnum (name : QualName) (default : String) : Element .enum (.openEnum name default)

/-- What a value stored as it is, of type `t`, lets generated code do. -/
structure Bare (kind : FieldKind) (t : Ty) : Prop where
  noDefault_iff : (∃ err, t.defaultValue = .error err) ↔ kind = .group
  notCleared_iff : ∀ v, (∃ err, t.clear v = .error err) ↔ kind = .group ∨ kind = .message

theorem exists_answers_of_ty {kind : FieldKind} {buffer : Buffer} {t : Ty}
    (hp : kind.isPrimitive = true) (h : kind.ty buffer = .ok t) :
    (∃ text, t.defaultValue = .ok text) ∧ ∀ v, ∃ statement, t.clear v = .ok statement := by
  cases kind <;> cases buffer <;> cases hp <;> cases h <;> exact ⟨⟨_, rfl⟩, fun _ => ⟨_, rfl⟩⟩

theorem Element.bare {kind : FieldKind} {t : Ty} (h : kind.Element t) : kind.Bare t := by
  cases h with
  | primitive hp ht =>
    -- everything succeeds, so it is left that the kind is neither of the two
    obtain ⟨⟨text, hdefault⟩, hclear⟩ := exists_answers_of_ty hp ht
    have hg : kind ≠ .group := by
      rintro rfl
      cases hp
    have hm : kind ≠ .message := by
      rintro rfl
      cases hp
    refine ⟨by simp [hdefault, hg], fun v => ?_⟩
    obtain ⟨statement, hstatement⟩ := hclear v
    simp [hstatement, hg, hm]
  | group | message | enum | openEnum =>
    exact ⟨by simp [Ty.defaultValue],
      fun v => by simp [Ty.clear, Ty.defaultValue, Except.map]⟩

end FieldKind

/-! ## Stored values -/

namespace Field

variable {field : Field} {site : Site} {scope : Scope} {options : Options} {e : Ty}

theorem result_storedTy (field : Field) (site : Site) (scope : Scope) (wrapper : Wrapper)
    (options : Options) :
    (field.storedTy site scope wrapper options).result =
      (field.elementTy site scope options).result.map wrapper.wrap := by
  rw [storedTy, Traced.result_bind]
  rfl

/-- Which type an element has follows the kind of the field. -/
theorem element_of_elementTy (h : (field.elementTy site scope options).result = .ok e) :
    field.kind.Element e := by
  by_cases hp : field.kind.isPrimitive = true
  · rw [result_elementTy_primitive hp] at h
    exact .primitive hp h
  by_cases hg : field.kind = .group
  · rw [result_elementTy_group hg, Except.ok.injEq] at h
    rw [hg, ← h]
    exact .group
  rw [result_elementTy_named (by simpa using hp) hg] at h
  obtain ⟨⟨d, name⟩, -, h⟩ := Except.bind_eq_ok_iff.mp h
  by_cases hm : field.kind = .message
  · rw [if_pos hm, Except.ok.injEq] at h
    rw [hm, ← h]
    exact .message name
  · rw [if_neg hm] at h
    obtain ⟨default, -, rfl⟩ := Except.map_eq_ok_iff.mp h
    rw [kind_of_named (by simpa using hp) hg hm]
    split
    · exact .openEnum name default
    · exact .enum name default

/-- A field has a stored type exactly where it has an element type, and fails for the same
    reason. In a wrapper its value has a default and is cleared and read whatever the elements
    are; without one a group has neither default nor clearing, and a message no clearing. -/
theorem what_a_stored_value_allows (field : Field) (site : Site) (scope : Scope)
    (wrapper : Wrapper) (options : Options) :
    (field.storedTy site scope wrapper options).result =
      (field.elementTy site scope options).result.map wrapper.wrap ∧
    ∀ e, (field.elementTy site scope options).result = .ok e →
      ∃ t, (field.storedTy site scope wrapper options).result = .ok t ∧
        (wrapper ≠ .plain → wrapper.Keeps e t) ∧
        (wrapper = .plain → t = e ∧ field.kind.Bare t) := by
  refine ⟨result_storedTy field site scope wrapper options, fun e h => ⟨wrapper.wrap e, ?_, ?_, ?_⟩⟩
  · rw [result_storedTy, h]
    rfl
  · intro hw
    exact Wrapper.keeps_wrap hw e
  · rintro rfl
    exact ⟨rfl, (element_of_elementTy h).bare⟩

/-- A repeated group: there is no value to put into the container, and the container has a
    default and yields references to groups all the same. -/
theorem what_a_stored_value_allows_of_groups :
    let field : Field := ⟨"g", 1, .group, none⟩
    let site : Site := ⟨"shop.proto", {}⟩
    let scope : Scope := .ofFiles []
    (field.elementTy site scope {}).result = .ok .group ∧
      Wrapper.repeatedField.Keeps .group (.repeatedField .group) ∧
      FieldKind.Bare .group .group := by
  intro field site scope
  have helement : (field.elementTy site scope {}).result = .ok .group := rfl
  obtain ⟨_, hstored, hkeeps, -⟩ :=
    (what_a_stored_value_allows field site scope .repeatedField {}).2 _ helement
  obtain ⟨_, hplain, -, hbare⟩ :=
    (what_a_stored_value_allows field site scope .plain {}).2 _ helement
  cases hstored
  cases hplain
  exact ⟨helement, hkeeps (by decide), (hbare rfl).2⟩

end Field

end RustSchema
