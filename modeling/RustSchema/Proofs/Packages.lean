/-
  RustSchema.Proofs.Packages — a package in which every declaration is found.

  Later declarations go over earlier ones of the same absolute name, so a declaration is found
  by its name only where no other has it. Absolute names without dots in their parts are as
  different as the places of the declarations (`place_eq_of_absoluteName_eq`), and all that is
  nested in a member is reached through the member's name: where the names side by side differ,
  so do the places of all that is nested in them (`nodup_places`), in one message
  (`nodup_declaredBy`) as across the files of a package (`IsPackage.nodup_place`).

  `no_declaration_is_lost`: in files of one package where names have no dots and differ side by
  side, every declaration, however deep, is what its absolute name finds.
-/

import RustSchema.Proofs.Declarations
import RustSchema.Proofs.Lookup

namespace RustSchema

open Declared

/-! ## Places -/

/-- Where two names lead to one place from the same messages, they are one name. -/
theorem Declared.name_eq_of_same_place {enclosing place : List String} {a b : String}
    (ha : enclosing ++ [a] <+: place) (hb : enclosing ++ [b] <+: place) : a = b := by
  have hlength : (enclosing ++ [a]).length = (enclosing ++ [b]).length := by simp
  have heq : enclosing ++ [a] = enclosing ++ [b] :=
    (List.prefix_of_prefix_length_le ha hb (Nat.le_of_eq hlength)).eq_of_length hlength
  simpa using heq

/-- Members of different names hold no two declarations of one place, if none of them does by
    itself. -/
theorem Declared.nodup_places {α : Type} {members : List α} {name : α → String}
    {declaredBy : α → List Declared} {enclosing : List String}
    (hnames : (members.map name).Nodup)
    (hleads : ∀ m ∈ members, ∀ d ∈ declaredBy m, enclosing ++ [name m] <+: d.place)
    (hnodup : ∀ m ∈ members, ((declaredBy m).map place).Nodup) :
    ((members.flatMap declaredBy).map place).Nodup := by
  rw [List.map_flatMap, List.nodup_flatMap]
  refine ⟨hnodup, (List.pairwise_map.mp hnames).imp_of_mem fun {a b} ha hb hne => ?_⟩
  intro p hpa hpb
  obtain ⟨d, hd, rfl⟩ := List.mem_map.mp hpa
  obtain ⟨e, he, hplace⟩ := List.mem_map.mp hpb
  -- one place would be reached through the names of both members
  exact hne (name_eq_of_same_place (hleads a ha d hd) (hplace ▸ hleads b hb e he))

namespace FileDecl

variable {file : FileDecl} {enclosing : List String} {member : Definition}

/-- A definition stands above all that is nested in it. -/
theorem place_not_mem_of_nested :
    enclosing ++ [member.name] ∉
      (member.members.flatMap (file.declaredBy (enclosing ++ [member.name]))).map place := by
  intro hmem
  obtain ⟨d, hd, hplace⟩ := List.mem_map.mp hmem
  obtain ⟨inner, -, hd⟩ := List.mem_flatMap.mp hd
  have hlength := (prefix_of_mem_declaredBy hd).length_le
  simp [hplace] at hlength

theorem nodup_declaredBy
    (h : ∀ d ∈ file.declaredBy enclosing member,
      (d.definition.members.map Definition.name).Nodup) :
    ((file.declaredBy enclosing member).map place).Nodup := by
  induction member using Definition.member_induction generalizing enclosing with
  | step member ih =>
    rw [declaredBy_eq_cons, List.map_cons, List.nodup_cons]
    refine ⟨place_not_mem_of_nested, nodup_places (h _ (mem_declaredBy_iff.mpr (.inl rfl)))
      (fun inner _ d => prefix_of_mem_declaredBy) fun inner hinner => ?_⟩
    exact ih inner hinner fun d hd => h d (mem_declaredBy_iff.mpr (.inr ⟨inner, hinner, hd⟩))

end FileDecl

/-! ## Packages -/

namespace Scope

/-- Files of one package whose names have no dots and differ from those beside them. -/
structure IsPackage (package : String) (files : List FileDecl) : Prop where
  package_eq : ∀ file ∈ files, file.package = package
  no_dot : ∀ d ∈ declared files, '.' ∉ d.name.toList
  /-- The files share their top level. -/
  topLevel_nodup : ((files.flatMap FileDecl.members).map Definition.name).Nodup
  nested_nodup : ∀ d ∈ declared files, (d.definition.members.map Definition.name).Nodup

variable {package : String} {files : List FileDecl} {d e : Declared}

/-- The members of all files, each with its own. -/
def topLevel (files : List FileDecl) : List (FileDecl × Definition) :=
  files.flatMap fun file => file.members.map (file, ·)

theorem declared_eq_flatMap (files : List FileDecl) :
    declared files = (topLevel files).flatMap fun m => m.1.declaredBy [] m.2 := by
  simp only [topLevel, List.flatMap_assoc, List.flatMap_map, ← FileDecl.declarations_eq_flatMap]
  rfl

theorem mem_declared_iff : d ∈ declared files ↔ ∃ file ∈ files, d ∈ file.declarations :=
  List.mem_flatMap

namespace IsPackage

theorem nodup_place (h : IsPackage package files) : ((declared files).map place).Nodup := by
  have hnames : ((topLevel files).map fun m => m.2.name).Nodup := by
    have hmap : (topLevel files).map (fun m => m.2.name) =
        (files.flatMap FileDecl.members).map Definition.name := by
      simp only [topLevel, List.map_flatMap, List.map_map]
      rfl
    rw [hmap]
    exact h.topLevel_nodup
  have hnested := h.nested_nodup
  rw [declared_eq_flatMap] at hnested ⊢
  refine nodup_places hnames (fun m _ d => FileDecl.prefix_of_mem_declaredBy) fun m hm => ?_
  exact FileDecl.nodup_declaredBy fun d hd => hnested d (List.mem_flatMap.mpr ⟨m, hm, hd⟩)

theorem package_eq_of_mem (h : IsPackage package files) (hd : d ∈ declared files) :
    d.file.package = package := by
  obtain ⟨file, hfile, hd⟩ := mem_declared_iff.mp hd
  rw [FileDecl.file_of_mem_declarations hd, h.package_eq file hfile]

/-- The messages around a declaration are declared too, so no name on the way has a dot. -/
theorem no_dot_of_mem_place (h : IsPackage package files) (hd : d ∈ declared files) :
    ∀ name ∈ d.place, '.' ∉ name.toList := by
  intro name hname
  rcases List.mem_append.mp hname with houter | hown
  · obtain ⟨file, hfile, hd⟩ := mem_declared_iff.mp hd
    obtain ⟨e, he, rfl⟩ := FileDecl.exists_of_mem_enclosing hd houter
    exact h.no_dot e (mem_declared_iff.mpr ⟨file, hfile, he⟩)
  · rw [List.mem_singleton.mp hown]
    exact h.no_dot d hd

theorem nodup_absoluteName (h : IsPackage package files) :
    ((declared files).map absoluteName).Nodup := by
  refine List.Nodup.map_on (fun d hd e he hname => ?_) h.nodup_place.of_map
  have hplace : d.place = e.place := place_eq_of_absoluteName_eq
    ((h.package_eq_of_mem hd).trans (h.package_eq_of_mem he).symm) (h.no_dot_of_mem_place hd)
    (h.no_dot_of_mem_place he) hname
  exact List.inj_on_of_nodup_map h.nodup_place hd he hplace

end IsPackage

/-- In a package every declaration, at any depth, is what its absolute name finds. -/
theorem no_declaration_is_lost (h : IsPackage package files) :
    ∀ d ∈ declared files, (ofFiles files).find d.absoluteName = .ok d := by
  intro d hd
  rw [find_eq_ok_iff, find?_ofFiles, lastNamed_eq_some_iff_of_nodup h.nodup_absoluteName]
  exact ⟨hd, rfl⟩

/-- Two files of package `shop.v1`. The same names occur beside each other at every depth. -/
def orderFile : FileDecl :=
  { name := "order.proto", package := "shop.v1", enums := [⟨"Kind", ["NONE"]⟩],
    messages :=
      [{ name := "Order", enums := [⟨"Kind", []⟩],
         nested := [{ name := "Line", nested := [{ name := "Order" }] }] }] }

def lineItemFile : FileDecl :=
  { name := "line.proto", package := "shop.v1",
    messages := [{ name := "Line", nested := [{ name := "Order" }] }] }

/-- The innermost `Order` of the first file is found, and not one of the other two. -/
theorem no_declaration_is_lost_of_one_name :
    let d : Declared := ⟨orderFile, ["Order", "Line"], .message { name := "Order" }⟩
    IsPackage "shop.v1" [orderFile, lineItemFile] ∧ d ∈ declared [orderFile, lineItemFile] ∧
      (ofFiles [orderFile, lineItemFile]).find ".shop.v1.Order.Line.Order" = .ok d := by
  intro d
  have hpackage : IsPackage "shop.v1" [orderFile, lineItemFile] :=
    { package_eq := by decide
      no_dot := by decide +kernel
      topLevel_nodup := by decide
      nested_nodup := by decide +kernel }
  have hd : d ∈ declared [orderFile, lineItemFile] := by
    simp [d, declared, orderFile, lineItemFile, FileDecl.declarations, FileDecl.enumsIn,
      FileDecl.messagesIn, FileDecl.messageIn]
  have hname : d.absoluteName = ".shop.v1.Order.Line.Order" := by decide +kernel
  exact ⟨hpackage, hd, hname ▸ no_declaration_is_lost hpackage d hd⟩

end Scope

end RustSchema
