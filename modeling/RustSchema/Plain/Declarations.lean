/-
  RustSchema.Plain.Declarations — schema declarations as plain data.

  `ofPlain_toPlain`, for each of the four: what is written is read back unchanged. Messages can
  be nested, and whoever reads with a guard has to let all of them in (`ofPlainIn_toPlain`,
  `ofPlainBy_toPlain`).
-/

import RustSchema.Plain.Scalar

namespace RustSchema

namespace Field

def toPlain (field : Field) : Plain :=
  .object [("name", .text field.name), ("number", .int field.number),
    ("kind", .int field.kind.number), ("type_name", field.typeName.elim .null .text)]

def ofPlain : Plain → Reading Field
  | .object entries =>
    Field.mk <$> Plain.required entries "name" Plain.readText
      <*> Plain.required entries "number" Plain.readInt
      <*> Plain.required entries "kind" Plain.readKind
      <*> Plain.optional entries "type_name" none Plain.readTextOrNull
  | _ => .fail .notObject

theorem readKind_number (kind : FieldKind) : Plain.readKind (.int kind.number) = .done kind := by
  cases kind <;> rfl

theorem ofPlain_toPlain (field : Field) : ofPlain field.toPlain = .done field := by
  obtain ⟨name, number, kind, typeName⟩ := field
  cases typeName <;>
    simp [toPlain, ofPlain, Plain.optional, Plain.required, List.lookup_cons, Plain.readText,
      Plain.readInt, Plain.readTextOrNull, readKind_number]

end Field

namespace EnumDecl

def toPlain (decl : EnumDecl) : Plain :=
  .object [("name", .text decl.name), ("values", .list (decl.values.map .text))]

def ofPlain : Plain → Reading EnumDecl
  | .object entries =>
    EnumDecl.mk <$> Plain.required entries "name" Plain.readText
      <*> Plain.optional entries "values" [] (Plain.listOf Plain.readText)
  | _ => .fail .notObject

theorem ofPlain_toPlain (decl : EnumDecl) : ofPlain decl.toPlain = .done decl := by
  have h := Plain.itemsFrom_map Plain.text Plain.readText 0 decl.values fun _ _ => rfl
  simp [toPlain, ofPlain, Plain.optional, Plain.required, List.lookup_cons, Plain.readText,
    Plain.listOf, h]

end EnumDecl

namespace MessageDecl

mutual

def toPlain : MessageDecl → Plain
  | ⟨name, fields, nested, enums⟩ =>
    .object [("name", .text name), ("fields", .list (fields.map Field.toPlain)),
      ("nested_types", .list (toPlains nested)),
      ("enum_types", .list (enums.map EnumDecl.toPlain))]

def toPlains : List MessageDecl → List Plain
  | [] => []
  | decl :: rest => decl.toPlain :: toPlains rest

end

/-- A message inside the layers `around`. -/
def ofPlainIn (guard : Guard) (around : List Layer) (v : Plain) : Reading MessageDecl :=
  let inside := .message :: around
  guard.watch inside <|
    match v with
    | .object entries =>
      let nested := Plain.optionalInside entries "nested_types" [] fun v _ =>
        Plain.listInside v fun item _ => ofPlainIn guard inside item
      MessageDecl.mk <$> Plain.required entries "name" Plain.readText
        <*> Plain.optional entries "fields" [] (Plain.listOf Field.ofPlain)
        <*> nested
        <*> Plain.optional entries "enum_types" [] (Plain.listOf EnumDecl.ofPlain)
    | _ => .fail .notObject
termination_by v
decreasing_by
  simp only [Plain.object.sizeOf_spec] at *
  omega

def ofPlain : Plain → Reading MessageDecl := ofPlainIn .off []

theorem ofPlainIn_object {guard : Guard} {around : List Layer}
    {entries : List (String × Plain)} :
    ofPlainIn guard around (.object entries) =
      guard.watch (.message :: around)
        (MessageDecl.mk <$> Plain.required entries "name" Plain.readText
          <*> Plain.optional entries "fields" [] (Plain.listOf Field.ofPlain)
          <*> Plain.optional entries "nested_types" []
            (Plain.listOf (ofPlainIn guard (.message :: around)))
          <*> Plain.optional entries "enum_types" [] (Plain.listOf EnumDecl.ofPlain)) := by
  rw [ofPlainIn]
  simp only [Plain.listInside_eq, Plain.optionalInside_eq]

mutual

/-- The guard lets a message in, and all messages in it. -/
def Admitted (guard : Guard) (around : List Layer) : MessageDecl → Prop
  | ⟨_, _, nested, _⟩ =>
    guard (.message :: around) = none ∧ AllAdmitted guard (.message :: around) nested

def AllAdmitted (guard : Guard) (around : List Layer) : List MessageDecl → Prop
  | [] => True
  | decl :: rest => decl.Admitted guard around ∧ AllAdmitted guard around rest

end

theorem toPlains_eq_map (decls : List MessageDecl) : toPlains decls = decls.map toPlain := by
  induction decls with
  | nil => rfl
  | cons decl rest ih => simp [toPlains, ih]

theorem allAdmitted_iff {guard : Guard} {around : List Layer} {decls : List MessageDecl} :
    AllAdmitted guard around decls ↔ ∀ decl ∈ decls, decl.Admitted guard around := by
  induction decls with
  | nil => simp [AllAdmitted]
  | cons decl rest ih => simp [AllAdmitted, ih]

theorem admitted_iff {guard : Guard} {around : List Layer} {decl : MessageDecl} :
    decl.Admitted guard around ↔ guard (.message :: around) = none ∧
      ∀ inner ∈ decl.nested, inner.Admitted guard (.message :: around) := by
  obtain ⟨name, fields, nested, enums⟩ := decl
  rw [Admitted, allAdmitted_iff]

theorem nested_induction {P : MessageDecl → Prop}
    (h : ∀ decl, (∀ inner ∈ decl.nested, P inner) → P decl) (decl : MessageDecl) : P decl := by
  apply h
  intro inner hinner
  exact nested_induction h inner
termination_by decl
decreasing_by
  obtain ⟨name, fields, nested, enums⟩ := decl
  have hlt := List.sizeOf_lt_of_mem hinner
  simp only [MessageDecl.mk.sizeOf_spec] at hlt ⊢
  omega

theorem ofPlainIn_toPlain {guard : Guard} {around : List Layer} {decl : MessageDecl}
    (h : decl.Admitted guard around) : ofPlainIn guard around decl.toPlain = .done decl := by
  induction decl using nested_induction generalizing around with
  | h decl ih =>
    obtain ⟨hguard, hnested⟩ := admitted_iff.mp h
    obtain ⟨name, fields, nested, enums⟩ := decl
    have hf := Plain.itemsFrom_map Field.toPlain Field.ofPlain 0 fields
      fun field _ => field.ofPlain_toPlain
    have he := Plain.itemsFrom_map EnumDecl.toPlain EnumDecl.ofPlain 0 enums
      fun decl _ => decl.ofPlain_toPlain
    have hn := Plain.itemsFrom_map toPlain (ofPlainIn guard (.message :: around)) 0 nested
      fun inner hinner => ih inner hinner (hnested inner hinner)
    rw [toPlain, ofPlainIn_object]
    simp [Guard.watch, hguard, Plain.optional, Plain.required, List.lookup_cons, Plain.readText,
      Plain.listOf, toPlains_eq_map, hf, he, hn]

/-- Without a guard there is nothing that is not let in. -/
theorem admitted_off (around : List Layer) (decl : MessageDecl) : decl.Admitted .off around := by
  induction decl using nested_induction generalizing around with
  | h decl ih => exact admitted_iff.mpr ⟨rfl, fun inner hinner => ih inner hinner _⟩

theorem ofPlain_toPlain (decl : MessageDecl) : ofPlain decl.toPlain = .done decl :=
  ofPlainIn_toPlain (admitted_off [] decl)

end MessageDecl

namespace FileDecl

def toPlain (file : FileDecl) : Plain :=
  .object [("name", .text file.name), ("package", .text file.package),
    ("message_types", .list (file.messages.map MessageDecl.toPlain)),
    ("enum_types", .list (file.enums.map EnumDecl.toPlain))]

def ofPlainBy (guard : Guard) : Plain → Reading FileDecl
  | .object entries =>
    FileDecl.mk <$> Plain.required entries "name" Plain.readText
      <*> Plain.optional entries "package" "" Plain.readText
      <*> Plain.optional entries "message_types" []
        (Plain.listOf (MessageDecl.ofPlainIn guard [.file]))
      <*> Plain.optional entries "enum_types" [] (Plain.listOf EnumDecl.ofPlain)
  | _ => .fail .notObject

def ofPlain : Plain → Reading FileDecl := ofPlainBy .off

/-- The guard lets in the messages of a file. -/
def Admitted (guard : Guard) (file : FileDecl) : Prop :=
  ∀ decl ∈ file.messages, decl.Admitted guard [.file]

theorem ofPlainBy_toPlain {guard : Guard} {file : FileDecl} (h : file.Admitted guard) :
    ofPlainBy guard file.toPlain = .done file := by
  have hm := Plain.itemsFrom_map MessageDecl.toPlain (MessageDecl.ofPlainIn guard [.file]) 0
    file.messages fun decl hdecl => MessageDecl.ofPlainIn_toPlain (h decl hdecl)
  have he := Plain.itemsFrom_map EnumDecl.toPlain EnumDecl.ofPlain 0 file.enums
    fun decl _ => decl.ofPlain_toPlain
  simp [toPlain, ofPlainBy, Plain.optional, Plain.required, List.lookup_cons, Plain.readText,
    Plain.listOf, hm, he]

theorem ofPlain_toPlain (file : FileDecl) : ofPlain file.toPlain = .done file :=
  ofPlainBy_toPlain fun decl _ => decl.admitted_off [.file]

end FileDecl

end RustSchema
