/-
  RustSchema.Proofs.Collisions — which declarations are written by one name.

  A name inside a file is made of the modules of the enclosing messages and of the escaped
  identifier. Each of these can be read back where the names are in camel case, and the names
  around a declaration are names of the same file (`exists_of_mem_enclosing`), so in a file
  that keeps to camel case no two names are written alike:
  `camel_case_names_do_not_collide`.

  Between files it is otherwise. The module of a file is named after its base name alone, and
  the package plays no part in it: a site outside both files writes two types by one name
  exactly when the modules and the identifiers come out the same
  (`names_of_other_files_agree_iff`), as they do for one message in two files of one base name
  (`files_of_one_base_name_share_names`).
-/

import RustSchema.Proofs.CamelCase
import RustSchema.Proofs.Declarations
import RustSchema.Proofs.Lookup
import RustSchema.Proofs.Naming

namespace RustSchema

/-! ## Inside a file -/

namespace Declared

open Ident

variable {d e : Declared}

/-- The name and the names around it are in camel case. -/
def InCamelCase (d : Declared) : Prop :=
  IsCamelCase d.name ∧ ∀ message ∈ d.enclosing, IsCamelCase message

theorem inCamelCase_of_mem {file : FileDecl} (hnames : ∀ d ∈ file.declarations, IsCamelCase d.name)
    (hd : d ∈ file.declarations) : d.InCamelCase := by
  refine ⟨hnames d hd, fun message hm => ?_⟩
  obtain ⟨e, he, rfl⟩ := FileDecl.exists_of_mem_enclosing hd hm
  exact hnames e he

theorem messages_eq_of_modules_eq {ms ms' : List String} (h : ∀ m ∈ ms, IsCamelCase m)
    (h' : ∀ m ∈ ms', IsCamelCase m) (heq : ms.map messageModule = ms'.map messageModule) :
    ms = ms' := by
  induction ms generalizing ms' with
  | nil => simpa [eq_comm] using heq
  | cons m ms ih =>
    cases ms' with
    | nil => cases heq
    | cons m' ms' =>
      rw [List.map_cons, List.map_cons, List.cons.injEq] at heq
      obtain ⟨hhead, htail⟩ := heq
      rw [messageModule_inj (h m List.mem_cons_self) (h' m' List.mem_cons_self) hhead,
        ih (fun x hx => h x (List.mem_cons_of_mem _ hx))
          (fun x hx => h' x (List.mem_cons_of_mem _ hx)) htail]

theorem nameInFile_eq_iff : d.nameInFile = e.nameInFile ↔
    d.enclosing.map messageModule = e.enclosing.map messageModule ∧
      escape d.name = escape e.name := by
  simp [nameInFile, ModPath.toName, ModPath.relative]

theorem nameInFile_eq_iff_of_camelCase (hd : d.InCamelCase) (he : e.InCamelCase) :
    d.nameInFile = e.nameInFile ↔ d.enclosing = e.enclosing ∧ d.name = e.name := by
  rw [nameInFile_eq_iff]
  constructor
  · rintro ⟨hmodules, hident⟩
    exact ⟨messages_eq_of_modules_eq hd.2 he.2 hmodules,
      escape_inj (isUnmarked_of_camelCase hd.1) (isUnmarked_of_camelCase he.1) hident⟩
  · rintro ⟨henclosing, hname⟩
    rw [henclosing, hname]
    exact ⟨rfl, rfl⟩

/-- Where every message and enum of a file is named in camel case, two declarations that differ
    in their name or in the names around them are written by different names. -/
theorem camel_case_names_do_not_collide (file : FileDecl)
    (hnames : ∀ d ∈ file.declarations, IsCamelCase d.name) (hd : d ∈ file.declarations)
    (he : e ∈ file.declarations) (hne : d.enclosing ≠ e.enclosing ∨ d.name ≠ e.name) :
    d.nameInFile ≠ e.nameInFile := by
  intro hsame
  obtain ⟨henclosing, hname⟩ := (nameInFile_eq_iff_of_camelCase (inCamelCase_of_mem hnames hd)
    (inCamelCase_of_mem hnames he)).mp hsame
  rcases hne with hne | hne
  · exact hne henclosing
  · exact hne hname

/-- Messages and enums with the names of keywords, in two orders. -/
def keywordFile : FileDecl :=
  { name := "kind.proto",
    messages :=
      [{ name := "Type", nested := [{ name := "SuperSelf", enums := [⟨"Self", []⟩] }] },
       { name := "SuperSelf", nested := [{ name := "Type", enums := [⟨"Self", []⟩] }] }] }

/-- The two enums are nested in messages of the same names, which stand in the other order. -/
theorem camel_case_names_do_not_collide_with_keywords :
    let inner : Declared := ⟨keywordFile, ["Type", "SuperSelf"], .enum ⟨"Self", []⟩⟩
    let outer : Declared := ⟨keywordFile, ["SuperSelf", "Type"], .enum ⟨"Self", []⟩⟩
    (∀ d ∈ keywordFile.declarations, IsCamelCase d.name) ∧
      inner ∈ keywordFile.declarations ∧ outer ∈ keywordFile.declarations ∧
      inner.enclosing ≠ outer.enclosing ∧
      inner.nameInFile = ⟨.relative ["r#type", "super_self"], "Self_"⟩ ∧
      inner.nameInFile ≠ outer.nameInFile := by
  intro inner outer
  have hnames : ∀ d ∈ keywordFile.declarations, IsCamelCase d.name := by
    have htype : IsCamelCase "Type" := ⟨["Type".toList], by decide, by decide, by decide⟩
    have hself : IsCamelCase "Self" := ⟨["Self".toList], by decide, by decide, by decide⟩
    have hsuper : IsCamelCase "SuperSelf" :=
      ⟨["Super".toList, "Self".toList], by decide, by decide, by decide⟩
    simp [keywordFile, FileDecl.declarations, FileDecl.enumsIn, FileDecl.messagesIn,
      FileDecl.messageIn, name, Definition.name, htype, hself, hsuper]
  have hinner : inner ∈ keywordFile.declarations := by
    simp [inner, keywordFile, FileDecl.declarations, FileDecl.enumsIn, FileDecl.messagesIn,
      FileDecl.messageIn]
  have houter : outer ∈ keywordFile.declarations := by
    simp [outer, keywordFile, FileDecl.declarations, FileDecl.enumsIn, FileDecl.messagesIn,
      FileDecl.messageIn]
  have hne : inner.enclosing ≠ outer.enclosing := by decide
  exact ⟨hnames, hinner, houter, hne, by decide +kernel,
    camel_case_names_do_not_collide keywordFile hnames hinner houter (.inl hne)⟩

/-! ## Between files -/

/-- At a site outside both files two generated types are written by one name exactly when the
    modules of their files, those of the messages around them and their identifiers come out
    the same. Names in camel case come out the same only if they are. -/
theorem names_of_other_files_agree_iff {site : Site} (hd : d.file.name ≠ site.file)
    (he : e.file.name ≠ site.file) (hdg : d.GeneratedBeside site)
    (heg : e.GeneratedBeside site) :
    ∃ dName eName, (d.nameAt site).result = .ok dName ∧ (e.nameAt site).result = .ok eName ∧
      (dName = eName ↔ fileModule d.file.name = fileModule e.file.name ∧
        d.enclosing.map messageModule = e.enclosing.map messageModule ∧
        escape d.name = escape e.name) ∧
      (d.InCamelCase → e.InCamelCase → (dName = eName ↔
        fileModule d.file.name = fileModule e.file.name ∧ d.enclosing = e.enclosing ∧
        d.name = e.name)) := by
  obtain ⟨hdw, hdd⟩ := hdg.resolve_left hd
  obtain ⟨hew, hed⟩ := heg.resolve_left he
  refine ⟨_, _, result_nameAt_other_file hd hdw hdd, result_nameAt_other_file he hew hed, ?_⟩
  -- both begin with the same steps up
  have hagree : (ModPath.relative (List.replicate site.modules.length superSegment ++ d.home)).toName
        (escape d.name) =
      (ModPath.relative (List.replicate site.modules.length superSegment ++ e.home)).toName
        (escape e.name) ↔
      fileModule d.file.name = fileModule e.file.name ∧ d.nameInFile = e.nameInFile := by
    simp [ModPath.toName, ModPath.relative, home, nameInFile, and_assoc]
  refine ⟨by rw [hagree, nameInFile_eq_iff], fun hdc hec => ?_⟩
  rw [hagree, nameInFile_eq_iff_of_camelCase hdc hec]

/-- An enum of another file with the names of `itemKind`, but for what is folded. -/
def foldedKind : Declared :=
  ⟨{ name := "billing/item.list.proto", package := "billing" }, ["HttpRequest"],
    .enum ⟨"Self", []⟩⟩

theorem names_of_other_files_agree_iff_folded :
    let site : Site := ⟨"cart.proto", .relative ["outer"]⟩
    itemKind.file.name ≠ site.file ∧ foldedKind.file.name ≠ site.file ∧
      itemKind.GeneratedBeside site ∧ foldedKind.GeneratedBeside site ∧
      ∃ name, (itemKind.nameAt site).result = .ok name ∧
        (foldedKind.nameAt site).result = .ok name := by
  intro site
  have hd : itemKind.file.name ≠ site.file := by decide
  have he : foldedKind.file.name ≠ site.file := by decide
  have hdg : itemKind.GeneratedBeside site :=
    .inr ⟨simpleName?_eq_none_iff.mp (by decide +kernel), by decide +kernel⟩
  have heg : foldedKind.GeneratedBeside site :=
    .inr ⟨simpleName?_eq_none_iff.mp (by decide +kernel), by decide +kernel⟩
  obtain ⟨dName, eName, hdName, heName, hagree, -⟩ := names_of_other_files_agree_iff hd he hdg heg
  obtain rfl : dName = eName := hagree.mpr (by decide +kernel)
  exact ⟨hd, he, hdg, heg, dName, hdName, heName⟩

/-- Two files of one base name, each with a message `Item` in its own package. At a site in a
    third file the two messages have one name. -/
theorem files_of_one_base_name_share_names :
    let billing : FileDecl :=
      { name := "billing/item.proto", package := "billing", messages := [{ name := "Item" }] }
    let shop : FileDecl :=
      { name := "shop/item.proto", package := "shop", messages := [{ name := "Item" }] }
    let site : Site := ⟨"cart.proto", {}⟩
    let d : Declared := ⟨billing, [], .message { name := "Item" }⟩
    let e : Declared := ⟨shop, [], .message { name := "Item" }⟩
    ([billing, shop].map FileDecl.name).Nodup ∧ site.within.absolute = false ∧
      (Scope.ofFiles [billing, shop]).find ".billing.Item" = .ok d ∧
      (Scope.ofFiles [billing, shop]).find ".shop.Item" = .ok e ∧
      d.absoluteName ≠ e.absoluteName ∧ d.file.name ≠ e.file.name ∧
      d.file.name ≠ site.file ∧ e.file.name ≠ site.file ∧
      (¬ d.IsWellKnown ∧ WellKnown.isDescriptorFile d.file = false) ∧
      (¬ e.IsWellKnown ∧ WellKnown.isDescriptorFile e.file = false) ∧
      (d.nameAt site).result = .ok ⟨.relative ["super", "item"], "Item"⟩ ∧
      (e.nameAt site).result = .ok ⟨.relative ["super", "item"], "Item"⟩ := by
  intro billing shop site d e
  have hd : (Scope.ofFiles [billing, shop]).find ".billing.Item" = .ok d := by
    rw [Scope.find_eq_ok_iff, Scope.find?_ofFiles, Scope.lastNamed_eq_some_iff]
    exact ⟨[], [e], rfl, by decide +kernel, by decide +kernel⟩
  have he : (Scope.ofFiles [billing, shop]).find ".shop.Item" = .ok e := by
    rw [Scope.find_eq_ok_iff, Scope.find?_ofFiles, Scope.lastNamed_eq_some_iff]
    exact ⟨[d], [], rfl, by decide +kernel, by simp⟩
  have hdg : ¬ d.IsWellKnown ∧ WellKnown.isDescriptorFile d.file = false :=
    ⟨simpleName?_eq_none_iff.mp (by decide +kernel), by decide +kernel⟩
  have heg : ¬ e.IsWellKnown ∧ WellKnown.isDescriptorFile e.file = false :=
    ⟨simpleName?_eq_none_iff.mp (by decide +kernel), by decide +kernel⟩
  refine ⟨by decide, rfl, hd, he, by decide +kernel, by decide, by decide, by decide, hdg, heg,
    ?_, ?_⟩
  · rw [result_nameAt_other_file (by decide) hdg.1 hdg.2]
    decide +kernel
  · rw [result_nameAt_other_file (by decide) heg.1 heg.2]
    decide +kernel

end Declared

end RustSchema
