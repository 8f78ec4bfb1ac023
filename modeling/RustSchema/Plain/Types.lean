/-
  RustSchema.Plain.Types — types as plain data: an object whose `kind` says which other
  fields it has.

  Every type that is entered adds its `kind` to the way to a problem, after the field that
  holds it. A value that cannot be told to be any type is reported where it stands, and so
  is the first type that a guard does not let in.

  `ofPlainIn_toPlain`: a type is read back unchanged by whoever lets in all of it, and so by
  whoever has no guard (`ofPlain_toPlain`).
-/

import RustSchema.Plain.Names
import RustSchema.Ty

namespace RustSchema.Ty

/-- The words for the sorts of type. -/
def tag : Ty → String
  | .int _ _ => "int"
  | .float _ => "float"
  | .bool => "bool"
  | .string => "string"
  | .str => "str"
  | .slice _ => "slice"
  | .vec _ => "vec"
  | .hashMap _ _ => "hash_map"
  | .option _ => "option"
  | .singularField _ => "singular_field"
  | .singularPtrField _ => "singular_ptr_field"
  | .repeatedField _ => "repeated_field"
  | .box _ => "box"
  | .ref _ => "ref"
  | .message _ => "message"
  | .enum _ _ => "enum"
  | .openEnum _ _ => "enum_or_unknown"
  | .oneof _ => "oneof"
  | .bytes => "bytes"
  | .chars => "chars"
  | .group => "group"

def toPlain (t : Ty) : Plain :=
  .object (("kind", .text t.tag) ::
    match t with
    | .int signed width => [("signed", .bool signed), ("bits", .int width.bits)]
    | .float width => [("bits", .int width.bits)]
    | .slice element | .vec element | .repeatedField element =>
      [("element_type", element.toPlain)]
    | .hashMap key value => [("key_type", key.toPlain), ("value_type", value.toPlain)]
    | .option inner | .singularField inner | .singularPtrField inner | .box inner
    | .ref inner => [("inner_type", inner.toPlain)]
    | .message name | .oneof name => [("name", name.toPlain)]
    | .enum name default | .openEnum name default =>
      [("name", name.toPlain), ("default_variant", .text default)]
    | _ => [])

def intWidth : Plain → Reading IntWidth :=
  Plain.readMember IntWidth.all (fun w => (w.bits : Int)) .notListed

def floatWidth : Plain → Reading FloatWidth :=
  Plain.readMember FloatWidth.all (fun w => (w.bits : Int)) .notListed

/-- The fields that belong to the sort of type `tag`, of which `part` reads those that hold
    a type; `none` if there is no such sort. -/
def fields? (tag : String) (entries : List (String × Plain)) (part : String → Reading Ty) :
    Option (Reading Ty) :=
  let name := Plain.required entries "name" QualName.ofPlain
  let default := Plain.required entries "default_variant" Plain.readText
  match tag with
  | "int" =>
    some (Ty.int <$> Plain.required entries "signed" Plain.readBool
      <*> Plain.required entries "bits" intWidth)
  | "float" => some (Ty.float <$> Plain.required entries "bits" floatWidth)
  | "bool" => some (.done .bool)
  | "string" => some (.done .string)
  | "str" => some (.done .str)
  | "slice" => some (Ty.slice <$> part "element_type")
  | "vec" => some (Ty.vec <$> part "element_type")
  | "hash_map" => some (Ty.hashMap <$> part "key_type" <*> part "value_type")
  | "option" => some (Ty.option <$> part "inner_type")
  | "singular_field" => some (Ty.singularField <$> part "inner_type")
  | "singular_ptr_field" => some (Ty.singularPtrField <$> part "inner_type")
  | "repeated_field" => some (Ty.repeatedField <$> part "element_type")
  | "box" => some (Ty.box <$> part "inner_type")
  | "ref" => some (Ty.ref <$> part "inner_type")
  | "message" => some (Ty.message <$> name)
  | "enum" => some (Ty.enum <$> name <*> default)
  | "enum_or_unknown" => some (Ty.openEnum <$> name <*> default)
  | "oneof" => some (Ty.oneof <$> name)
  | "bytes" => some (.done .bytes)
  | "chars" => some (.done .chars)
  | "group" => some (.done .group)
  | _ => none

/-- A type inside the layers `around`. -/
def ofPlainIn (guard : Guard) (around : List Layer) (v : Plain) : Reading Ty :=
  match v with
  | .object entries =>
    match entries.lookup "kind" with
    | none => .fail .noTag
    | some (.text tag) =>
      let inside := .type tag :: around
      let part (key : String) := Plain.requiredInside entries key fun v _ => ofPlainIn guard inside v
      match fields? tag entries part with
      | some reading => (guard.watch inside reading).under (.key tag)
      | none => .fail .unknownTag
    | some _ => .fail .unknownTag
  | _ => .fail .notTagged
termination_by v
decreasing_by
  simp only [Plain.object.sizeOf_spec] at *
  omega

def ofPlain : Plain → Reading Ty := ofPlainIn .off []

/-- The fields of an object belong to the sort of type that its `kind` says. -/
theorem ofPlainIn_object {guard : Guard} {around : List Layer} {entries : List (String × Plain)}
    {tag : String} (h : entries.lookup "kind" = some (.text tag)) :
    ofPlainIn guard around (.object entries) =
      match fields? tag entries (Plain.required entries · (ofPlainIn guard (.type tag :: around))) with
      | some reading => (guard.watch (.type tag :: around) reading).under (.key tag)
      | none => .fail .unknownTag := by
  rw [ofPlainIn]
  simp only [h, Plain.requiredInside_eq]

/-! ## What is written is read back -/

/-- The guard lets a type in, and all types in it. -/
def Admitted (guard : Guard) (around : List Layer) (t : Ty) : Prop :=
  guard (.type t.tag :: around) = none ∧
    match t with
    | .slice inner | .vec inner | .option inner | .singularField inner
    | .singularPtrField inner | .repeatedField inner | .box inner | .ref inner =>
      inner.Admitted guard (.type t.tag :: around)
    | .hashMap key value =>
      key.Admitted guard (.type t.tag :: around) ∧ value.Admitted guard (.type t.tag :: around)
    | _ => True

theorem intWidth_bits (w : IntWidth) : intWidth (.int w.bits) = .done w := by cases w <;> rfl

theorem floatWidth_bits (w : FloatWidth) : floatWidth (.int w.bits) = .done w := by
  cases w <;> rfl

theorem ofPlainIn_toPlain {guard : Guard} {around : List Layer} {t : Ty}
    (h : t.Admitted guard around) : ofPlainIn guard around t.toPlain = .done t := by
  induction t generalizing around with
  | hashMap key value ihKey ihValue =>
    obtain ⟨hguard, hkey, hvalue⟩ := h
    simp only [tag] at hguard hkey hvalue
    unfold toPlain
    rw [ofPlainIn_object rfl]
    simp [fields?, tag, Plain.required, List.lookup_cons, Guard.watch, hguard, ihKey hkey,
      ihValue hvalue]
  | slice inner ih | vec inner ih | option inner ih | singularField inner ih
  | singularPtrField inner ih | repeatedField inner ih | box inner ih | ref inner ih =>
    obtain ⟨hguard, hinner⟩ := h
    simp only [tag] at hguard hinner
    unfold toPlain
    rw [ofPlainIn_object rfl]
    simp [fields?, tag, Plain.required, List.lookup_cons, Guard.watch, hguard, ih hinner]
  | _ =>
    obtain ⟨hguard, -⟩ := h
    simp only [tag] at hguard
    unfold toPlain
    rw [ofPlainIn_object rfl]
    simp [fields?, tag, Plain.required, List.lookup_cons, Guard.watch, hguard, Plain.readText,
      Plain.readBool, intWidth_bits, floatWidth_bits, QualName.ofPlain_toPlain]

/-- Without a guard there is nothing that is not let in. -/
theorem admitted_off (around : List Layer) (t : Ty) : t.Admitted .off around := by
  induction t generalizing around with
  | hashMap key value ihKey ihValue => exact ⟨rfl, ihKey _, ihValue _⟩
  | slice inner ih | vec inner ih | option inner ih | singularField inner ih
  | singularPtrField inner ih | repeatedField inner ih | box inner ih | ref inner ih =>
    exact ⟨rfl, ih _⟩
  | _ => exact ⟨rfl, trivial⟩

theorem ofPlain_toPlain (t : Ty) : ofPlain t.toPlain = .done t :=
  ofPlainIn_toPlain (admitted_off [] t)

end RustSchema.Ty
