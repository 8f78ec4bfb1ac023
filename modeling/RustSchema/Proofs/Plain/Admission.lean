/-
  RustSchema.Proofs.Plain.Admission — what is read was let in.

  A guard is asked for every type and every message that a reading goes into. So where a type
  is read, the guard has let in that type and each type in it, as its parts were read before it
  (`Ty.admitted_of_ofPlainIn`, by induction on the type: `Ty.parts_induction`). The same holds of
  messages in messages and in files (`MessageDecl.admitted_of_ofPlainIn`,
  `FileDecl.admitted_of_ofPlainBy`).
-/

import RustSchema.Plain.Declarations
import RustSchema.Plain.Types
import RustSchema.Proofs.Plain.Readings

namespace RustSchema

variable {guard : Guard} {around : List Layer} {v : Plain}

namespace Ty

/-! ## Types -/

/-- The types directly inside. -/
def parts : Ty → List Ty
  | .slice inner | .vec inner | .option inner | .singularField inner | .singularPtrField inner
  | .repeatedField inner | .box inner | .ref inner => [inner]
  | .hashMap key value => [key, value]
  | _ => []

theorem parts_induction {P : Ty → Prop} (h : ∀ t, (∀ x ∈ t.parts, P x) → P t) (t : Ty) : P t := by
  induction t with
  | hashMap key value ihKey ihValue =>
    apply h
    simp [parts, ihKey, ihValue]
  | slice inner ih | vec inner ih | option inner ih | singularField inner ih
  | singularPtrField inner ih | repeatedField inner ih | box inner ih | ref inner ih =>
    apply h
    simp [parts, ih]
  | _ =>
    apply h
    simp [parts]

theorem admitted_iff {t : Ty} : t.Admitted guard around ↔
    guard (.type t.tag :: around) = none ∧
      ∀ x ∈ t.parts, x.Admitted guard (.type t.tag :: around) := by
  cases t <;> rw [Admitted] <;> simp [parts]

/-- The fields of a type that is read are those of its tag, and its parts are among them. -/
theorem eq_tag_of_fields? {tag : String} {entries : List (String × Plain)}
    {part : String → Reading Ty} {t : Ty} (h : fields? tag entries part = some (.done t)) :
    tag = t.tag ∧ ∀ x ∈ t.parts, ∃ key, part key = .done x := by
  unfold fields? at h
  split at h <;>
    simp only [Option.some.injEq, Reading.map_eq_done_iff, Reading.map_seq_eq_done_iff,
      Reading.done.injEq, reduceCtorEq] at h
  all_goals grind [tag, parts]

/-- A type that is read was let in, and its parts were read in it. -/
theorem ofPlainIn_eq_done {t : Ty} (h : ofPlainIn guard around v = .done t) :
    guard (.type t.tag :: around) = none ∧
      ∀ x ∈ t.parts, ∃ v, ofPlainIn guard (.type t.tag :: around) v = .done x := by
  cases v with
  | object entries =>
    cases hkind : entries.lookup "kind" with
    | some kind =>
      cases kind with
      | text tag =>
        rw [ofPlainIn_object hkind] at h
        split at h
        · rename_i reading hfields
          obtain ⟨hguard, rfl⟩ := Guard.watch_eq_done_iff.mp (Reading.under_eq_done_iff.mp h)
          obtain ⟨rfl, hparts⟩ := eq_tag_of_fields? hfields
          refine ⟨hguard, fun x hx => ?_⟩
          obtain ⟨key, hkey⟩ := hparts x hx
          obtain ⟨v, -, hv⟩ := Plain.required_eq_done_iff.mp hkey
          exact ⟨v, hv⟩
        · exact absurd h (Reading.fail_ne_done _)
      | _ => simp [ofPlainIn, hkind] at h
    | none => simp [ofPlainIn, hkind] at h
  | _ => simp [ofPlainIn] at h

theorem admitted_of_ofPlainIn {t : Ty} (h : ofPlainIn guard around v = .done t) :
    t.Admitted guard around := by
  induction t using parts_induction generalizing around v with
  | h t ih =>
    obtain ⟨hguard, hparts⟩ := ofPlainIn_eq_done h
    refine admitted_iff.mpr ⟨hguard, fun x hx => ?_⟩
    obtain ⟨v', hv'⟩ := hparts x hx
    exact ih x hx hv'

end Ty

/-! ## Messages -/

/-- The members of a list that is read, or is not there, were read one by one. -/
theorem Plain.exists_of_mem_optional {α : Type} {entries : List (String × Plain)} {key : String}
    {read : Plain → Reading α} {xs : List α}
    (h : optional entries key [] (listOf read) = .done xs) : ∀ x ∈ xs, ∃ v, read v = .done x := by
  intro x hx
  obtain rfl | ⟨v, hv⟩ := optional_eq_done h
  · cases hx
  · exact listOf_eq_done hv x hx

namespace MessageDecl

/-- A message that is read was let in, and those nested in it were read in it. -/
theorem ofPlainIn_eq_done {decl : MessageDecl} (h : ofPlainIn guard around v = .done decl) :
    guard (.message :: around) = none ∧
      ∀ inner ∈ decl.nested, ∃ v, ofPlainIn guard (.message :: around) v = .done inner := by
  cases v with
  | object entries =>
    rw [ofPlainIn_object] at h
    obtain ⟨hguard, hread⟩ := Guard.watch_eq_done_iff.mp h
    obtain ⟨upToNested, enums, hupTo, -, rfl⟩ := Reading.seq_eq_done_iff.mp hread
    obtain ⟨upToFields, nested, hfields, hnested, rfl⟩ := Reading.seq_eq_done_iff.mp hupTo
    obtain ⟨name, fields, -, -, rfl⟩ := Reading.map_seq_eq_done_iff.mp hfields
    exact ⟨hguard, Plain.exists_of_mem_optional hnested⟩
  | _ => simp [ofPlainIn, Guard.watch_eq_done_iff] at h

theorem admitted_of_ofPlainIn {decl : MessageDecl} (h : ofPlainIn guard around v = .done decl) :
    decl.Admitted guard around := by
  induction decl using nested_induction generalizing around v with
  | h decl ih =>
    obtain ⟨hguard, hnested⟩ := ofPlainIn_eq_done h
    refine admitted_iff.mpr ⟨hguard, fun inner hinner => ?_⟩
    obtain ⟨v', hv'⟩ := hnested inner hinner
    exact ih inner hinner hv'

end MessageDecl

theorem FileDecl.admitted_of_ofPlainBy {file : FileDecl} (h : ofPlainBy guard v = .done file) :
    file.Admitted guard := by
  cases v with
  | object entries =>
    rw [ofPlainBy] at h
    obtain ⟨upToMessages, enums, hupTo, -, rfl⟩ := Reading.seq_eq_done_iff.mp h
    obtain ⟨upToPackage, messages, hpackage, hmessages, rfl⟩ := Reading.seq_eq_done_iff.mp hupTo
    obtain ⟨name, package, -, -, rfl⟩ := Reading.map_seq_eq_done_iff.mp hpackage
    intro decl hdecl
    obtain ⟨v', hv'⟩ := Plain.exists_of_mem_optional hmessages decl hdecl
    exact MessageDecl.admitted_of_ofPlainIn hv'
  | _ => exact absurd h (Reading.fail_ne_done _)

end RustSchema
