/-
  RustSchema.Proofs.TypeText — a written type is read in one way only.

  A type has a spelling (`Ty.spelling`), whose words are the names in the type and the fixed
  names of the language and of the runtime library. From it the type is read back but for what
  is not written, the sort of a named type and the default variant of an enum
  (`read?_spelling`). What is read back is `Ty.erase`.

  `text_eq_iff_erase_eq`: two types with proper names have one text exactly when they are the
  same but for that.
-/

import RustSchema.Proofs.NameText
import RustSchema.Proofs.Spelling
import RustSchema.Ty.Text

namespace RustSchema

/-! ## What is written -/

/-- The type names of the language and of the runtime library that are one word. -/
def Ty.builtins : List (String × Ty) :=
  [("bool", .bool), ("str", .str), ("f32", .float .w32), ("f64", .float .w64),
   ("i8", .int true .w8), ("i16", .int true .w16), ("i32", .int true .w32),
   ("i64", .int true .w64), ("u8", .int false .w8), ("u16", .int false .w16),
   ("u32", .int false .w32), ("u64", .int false .w64),
   ("::std::string::String", .string), ("::bytes::Bytes", .bytes), ("::protobuf::Chars", .chars)]

/-- No part of the name is empty or has a colon or a mark in it, and the name is not that of a
    type of the language or of the runtime library. -/
def QualName.Proper (name : QualName) : Prop :=
  (∀ part ∈ name.parts, part ≠ "" ∧ ':' ∉ part.toList ∧ Spelling.IsWord part.toList) ∧
    name.text ∉ Ty.builtins.map Prod.fst

instance (name : QualName) : Decidable name.Proper := inferInstanceAs (Decidable (_ ∧ _))

namespace Ty

/-- The names in a type. -/
def names : Ty → List QualName
  | .slice t | .vec t | .option t | .singularField t | .singularPtrField t | .repeatedField t
  | .box t | .ref t => t.names
  | .hashMap key value => key.names ++ value.names
  | .message name | .enum name _ | .openEnum name _ | .oneof name => [name]
  | .int _ _ | .float _ | .bool | .string | .str | .bytes | .chars | .group => []

def WellNamed (t : Ty) : Prop := ∀ name ∈ t.names, name.Proper

instance (t : Ty) : Decidable t.WellNamed :=
  inferInstanceAs (Decidable (∀ name ∈ t.names, name.Proper))

/-- What is written of a type: a message stands for every sort of named type, and enums have
    no default variants. -/
def erase : Ty → Ty
  | .slice t => .slice t.erase
  | .vec t => .vec t.erase
  | .hashMap key value => .hashMap key.erase value.erase
  | .option t => .option t.erase
  | .singularField t => .singularField t.erase
  | .singularPtrField t => .singularPtrField t.erase
  | .repeatedField t => .repeatedField t.erase
  | .box t => .box t.erase
  | .ref t => .ref t.erase
  | .message name | .enum name _ | .oneof name => .message name
  | .openEnum name _ => .openEnum name ""
  | t => t

def spelling : Ty → Spelling
  | .slice t => .bracketed t.spelling
  | .vec t => .applied "::std::vec::Vec" t.spelling
  | .hashMap key value => .mapped "::std::collections::HashMap" key.spelling value.spelling
  | .option t => .applied "::std::option::Option" t.spelling
  | .singularField t => .applied "::protobuf::SingularField" t.spelling
  | .singularPtrField t => .applied "::protobuf::SingularPtrField" t.spelling
  | .repeatedField t => .applied "::protobuf::RepeatedField" t.spelling
  | .box t => .applied "::std::boxed::Box" t.spelling
  | .ref t => .ref t.spelling
  | .openEnum name _ => .applied "::protobuf::ProtobufEnumOrUnknown" (.word name.text)
  | .group => .applied "" (.word "group")
  | t => .word t.text

/-! ## The text is the spelling -/

theorem toList_applied (container argument : String) :
    (applied container argument).toList =
      container.toList ++ '<' :: argument.toList ++ ['>'] := by
  simp [applied]

theorem toList_applied_pair (container key value : String) :
    (applied container (key ++ ", " ++ value)).toList =
      container.toList ++ '<' :: key.toList ++ ',' :: ' ' :: value.toList ++ ['>'] := by
  simp [applied]

theorem chars_spelling (t : Ty) : t.spelling.chars = t.text.toList := by
  induction t with
  | vec t ih | option t ih | singularField t ih | singularPtrField t ih | repeatedField t ih
  | box t ih => rw [spelling, Spelling.chars, ih, text, toList_applied]
  | hashMap key value ihkey ihvalue =>
    rw [spelling, Spelling.chars, ihkey, ihvalue, text, toList_applied_pair]
  | openEnum => rw [spelling, Spelling.chars, Spelling.chars, text, toList_applied]
  | slice t ih | ref t ih => simp [spelling, Spelling.chars, text, ih]
  | _ => rfl

theorem text_erase (t : Ty) : t.erase.text = t.text := by
  induction t with
  | hashMap key value ihkey ihvalue => rw [erase, text, text, ihkey, ihvalue]
  | slice t ih | vec t ih | option t ih | singularField t ih | singularPtrField t ih
  | repeatedField t ih | box t ih | ref t ih => rw [erase, text, text, ih]
  | _ => rfl

/-! ## Reading back -/

/-- The type that a container makes of its argument. An open enum is a container of a name,
    and a group is written like one. -/
def contain? (container : String) (argument : Ty) : Option Ty :=
  match container, argument with
  | "::std::vec::Vec", t => some (.vec t)
  | "::std::option::Option", t => some (.option t)
  | "::protobuf::SingularField", t => some (.singularField t)
  | "::protobuf::SingularPtrField", t => some (.singularPtrField t)
  | "::protobuf::RepeatedField", t => some (.repeatedField t)
  | "::std::boxed::Box", t => some (.box t)
  | "::protobuf::ProtobufEnumOrUnknown", .message name => some (.openEnum name "")
  | "", _ => some .group
  | _, _ => none

end Ty

/-- The type that a spelling is read as. A word that is not the name of a known type is a
    declared name. -/
def Spelling.read? : Spelling → Option Ty
  | .word w =>
    match Ty.builtins.find? fun builtin => builtin.1 = w with
    | some builtin => some builtin.2
    | none => (QualName.parse? w).map .message
  | .applied w argument => argument.read?.bind (Ty.contain? w)
  | .mapped _ key value => key.read?.bind fun k => value.read?.map fun v => .hashMap k v
  | .bracketed element => element.read?.map .slice
  | .ref target => target.read?.map .ref

namespace QualName

variable {name : QualName}

theorem isWord_text (h : name.Proper) : Spelling.IsWord name.text.toList := by
  intro c hc
  rcases mem_text hc with rfl | ⟨part, hpart, hmem⟩
  · decide
  · exact (h.1 part hpart).2.2 c hmem

theorem read?_text (h : name.Proper) : (Spelling.word name.text).read? = some (.message name) := by
  have hbuiltin : (Ty.builtins.find? fun builtin => builtin.1 = name.text) = none := by
    rw [List.find?_eq_none]
    intro builtin hmem heq
    exact h.2 (List.mem_map.mpr ⟨builtin, hmem, by simpa using heq⟩)
  have hparse : parse? name.text = some name := by
    apply parse?_text
    · exact (h.1 name.ident (by simp [parts])).1
    · exact fun part hpart => (h.1 part hpart).2.1
    · intro _ hfirst
      have hmem : "" ∈ name.parts := List.mem_append_left _ (List.mem_of_mem_head? hfirst)
      exact (h.1 "" hmem).1 rfl
  rw [Spelling.read?, hbuiltin, hparse]
  rfl

end QualName

namespace Ty

theorem isWord_builtin {t : Ty} (h : (t.text, t) ∈ builtins) : Spelling.IsWord t.text.toList := by
  have hall : ∀ builtin ∈ builtins, Spelling.IsWord builtin.1.toList := by decide
  exact hall _ h

theorem read?_builtin {t : Ty} (h : (t.text, t) ∈ builtins) :
    (Spelling.word t.text).read? = some t := by
  have hall : ∀ builtin ∈ builtins, (Spelling.word builtin.1).read? = some builtin.2 := by decide
  exact hall _ h

theorem mem_builtins_int (signed : Bool) (width : IntWidth) :
    ((int signed width).text, int signed width) ∈ builtins := by
  cases signed <;> cases width <;> decide

theorem mem_builtins_float (width : FloatWidth) : ((float width).text, float width) ∈ builtins := by
  cases width <;> decide

theorem clean_spelling {t : Ty} (h : t.WellNamed) : t.spelling.Clean := by
  induction t with
  | slice t ih | ref t ih => exact ih h
  | vec t ih | option t ih | singularField t ih | singularPtrField t ih | repeatedField t ih
  | box t ih => exact ⟨by decide, ih h⟩
  | hashMap key value ihkey ihvalue =>
    exact ⟨by decide, ihkey fun n hn => h n (List.mem_append_left _ hn),
      ihvalue fun n hn => h n (List.mem_append_right _ hn)⟩
  | message name | enum name | oneof name => exact QualName.isWord_text (h name (by simp [names]))
  | openEnum name => exact ⟨by decide, QualName.isWord_text (h name (by simp [names]))⟩
  | group =>
    have hgroup : Spelling.IsWord "group".toList := by decide
    exact ⟨by decide, hgroup⟩
  | int signed width => exact isWord_builtin (mem_builtins_int signed width)
  | float width => exact isWord_builtin (mem_builtins_float width)
  | bool | string | str | bytes | chars => exact isWord_builtin (by decide)

theorem read?_spelling {t : Ty} (h : t.WellNamed) : t.spelling.read? = some t.erase := by
  induction t with
  | slice t ih | ref t ih | vec t ih | option t ih | singularField t ih | singularPtrField t ih
  | repeatedField t ih | box t ih =>
    rw [spelling, Spelling.read?, ih h]
    rfl
  | hashMap key value ihkey ihvalue =>
    rw [spelling, Spelling.read?, ihkey fun n hn => h n (List.mem_append_left _ hn),
      ihvalue fun n hn => h n (List.mem_append_right _ hn)]
    rfl
  | message name | enum name | oneof name => exact QualName.read?_text (h name (by simp [names]))
  | openEnum name =>
    rw [spelling, Spelling.read?, QualName.read?_text (h name (by simp [names]))]
    rfl
  | int signed width => exact read?_builtin (mem_builtins_int signed width)
  | float width => exact read?_builtin (mem_builtins_float width)
  | bool | string | str | bytes | chars => exact read?_builtin (by decide)
  | group => decide

/-- Two types are written alike exactly when they differ in nothing but the sorts of their named
    types and the default variants of their enums. -/
theorem text_eq_iff_erase_eq {a b : Ty} (ha : a.WellNamed) (hb : b.WellNamed) :
    a.text = b.text ↔ a.erase = b.erase := by
  constructor
  · intro h
    have hspelling : a.spelling = b.spelling := by
      apply Spelling.eq_of_chars_eq (clean_spelling ha) (clean_spelling hb)
      rw [chars_spelling, chars_spelling, h]
    have hread := read?_spelling ha
    rw [hspelling, read?_spelling hb] at hread
    exact (Option.some.inj hread).symm
  · intro h
    rw [← text_erase a, ← text_erase b, h]

/-- A map of maps is written like the one with other sorts of named types, and not like the map
    into maps. -/
theorem text_eq_iff_erase_eq_in_maps :
    let key : QualName := ⟨.relative ["super", "shop"], "Key"⟩
    let kind : QualName := ⟨⟨true, ["shop"]⟩, "Kind"⟩
    let a : Ty := .hashMap (.hashMap (.message key) .bool) (.vec (.enum kind "NONE"))
    let b : Ty := .hashMap (.hashMap (.oneof key) .bool) (.vec (.enum kind "SOME"))
    let c : Ty := .hashMap (.message key) (.hashMap .bool (.vec (.enum kind "NONE")))
    a.WellNamed ∧ b.WellNamed ∧ c.WellNamed ∧ a.text = b.text ∧ a.text ≠ c.text := by
  intro key kind a b c
  have ha : a.WellNamed := by decide +kernel
  have hb : b.WellNamed := by decide +kernel
  have hc : c.WellNamed := by decide +kernel
  refine ⟨ha, hb, hc, (text_eq_iff_erase_eq ha hb).mpr rfl, ?_⟩
  rw [Ne, text_eq_iff_erase_eq ha hc]
  decide

end Ty

end RustSchema
