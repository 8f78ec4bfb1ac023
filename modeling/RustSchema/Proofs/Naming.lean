/-
  RustSchema.Proofs.Naming — where the name of a type leads.

  Generated modules form a tree whose top level holds one module per schema file. A type
  lives in the module of its innermost enclosing message (`Declared.home`) and is written at
  a site inside the module of another type, or of the same one (`Site.modules`). The four
  routes give the names stated by `result_nameAt_same_file`, `result_nameAt_well_known`,
  `result_nameAt_descriptor` and `result_nameAt_other_file`.

  `a_name_leads_home`: the name of a generated type is a relative path that leads from the
  site to the type's home, whichever of the two relative routes wrote it, and a type of the
  runtime library has one absolute name, the same at every site outside its file.
-/

import RustSchema.Naming
import RustSchema.Proofs.Keywords
import RustSchema.Proofs.ModuleTree
import RustSchema.Proofs.WellKnownNames

namespace RustSchema

/-- The module a site lies in, from the top of the tree. -/
def Site.modules (site : Site) : List String := Ident.fileModule site.file :: site.within.segments

namespace Declared

/-- The module that holds the type, from the top of the tree. -/
def home (d : Declared) : List String :=
  Ident.fileModule d.file.name :: d.enclosing.map Ident.messageModule

def IsWellKnown (d : Declared) : Prop :=
  ∃ simple ∈ WellKnown.typeNames, d.absoluteName = "." ++ WellKnown.package ++ "." ++ simple

/-- The type has a module in the tree that the site is part of. -/
def GeneratedBeside (d : Declared) (site : Site) : Prop :=
  d.file.name = site.file ∨ ¬ d.IsWellKnown ∧ WellKnown.isDescriptorFile d.file = false

/-- The name of a type that the runtime library ships. -/
inductive RuntimeName (d : Declared) : QualName → Prop
  | wellKnown (simple : String) : simple ∈ WellKnown.typeNames →
      d.absoluteName = "." ++ WellKnown.package ++ "." ++ simple →
      RuntimeName d ⟨⟨true, ["protobuf", "well_known_types"]⟩, simple⟩
  | descriptor : ¬ d.IsWellKnown → WellKnown.isDescriptorFile d.file = true →
      RuntimeName d
        ⟨⟨true, "protobuf" :: "descriptor" :: d.enclosing.map Ident.messageModule⟩,
          Ident.escape d.name⟩

variable {d : Declared} {site : Site}

theorem super_not_mem_home : superSegment ∉ d.home := by
  simp only [home, List.mem_cons, List.mem_map, not_or, not_exists, not_and]
  exact ⟨(Ident.fileModule_ne_super _).symm, fun message _ => Ident.messageModule_ne_super message⟩

theorem simpleName?_eq_none_iff :
    WellKnown.simpleName? d.absoluteName = none ↔ ¬ d.IsWellKnown := by
  simp only [IsWellKnown, Option.eq_none_iff_forall_ne_some, ne_eq,
    WellKnown.simpleName?_eq_some_iff, not_and, not_exists]

/-! ## The four routes -/

theorem result_nameAt (d : Declared) (site : Site) :
    (d.nameAt site).result = (d.route site).map Prod.snd := by
  unfold nameAt
  cases d.route site <;> rfl

theorem result_nameAt_same_file (h : d.file.name = site.file) :
    (d.nameAt site).result = d.nameInFile.seenFrom site.within := by
  rw [result_nameAt, route, if_pos h]
  cases d.nameInFile.seenFrom site.within <;> rfl

theorem result_nameAt_absolute_site (h : d.file.name = site.file)
    (hs : site.within.absolute = true) :
    (d.nameAt site).result = .error (.absoluteSource site.within) := by
  have htoward : site.within.toward d.nameInFile.path = .error (.absoluteSource site.within) :=
    if_pos hs
  rw [result_nameAt_same_file h, QualName.seenFrom, htoward]
  rfl

theorem result_nameAt_well_known (h : d.file.name ≠ site.file) {simple : String}
    (hmem : simple ∈ WellKnown.typeNames)
    (hname : d.absoluteName = "." ++ WellKnown.package ++ "." ++ simple) :
    (d.nameAt site).result = .ok ⟨⟨true, ["protobuf", "well_known_types"]⟩, simple⟩ := by
  rw [result_nameAt, route, if_neg h, WellKnown.simpleName?_eq_some_iff.mpr ⟨hmem, hname⟩]
  rfl

theorem result_nameAt_descriptor (h : d.file.name ≠ site.file) (hw : ¬ d.IsWellKnown)
    (hd : WellKnown.isDescriptorFile d.file = true) :
    (d.nameAt site).result = .ok
      ⟨⟨true, "protobuf" :: "descriptor" :: d.enclosing.map Ident.messageModule⟩,
        Ident.escape d.name⟩ := by
  rw [result_nameAt, route, if_neg h, simpleName?_eq_none_iff.mpr hw]
  simp only [hd]
  rfl

theorem nameWithFile_eq (d : Declared) :
    d.nameWithFile = .ok ((ModPath.relative d.home).toName (Ident.escape d.name)) :=
  ModPath.appendName_of_relative rfl

/-- One step up for each module of the site, then down from the top. -/
theorem throughParent_eq (d : Declared) (site : Site) :
    d.throughParent site = .ok
      ((ModPath.relative (List.replicate site.modules.length superSegment ++ d.home)).toName
        (Ident.escape d.name)) := by
  have hup : (site.within.ascent.push superSegment).segments =
      List.replicate site.modules.length superSegment := by
    simp [Site.modules, List.replicate_succ']
  calc d.throughParent site
      = (site.within.ascent.push superSegment).appendName
          ((ModPath.relative d.home).toName (Ident.escape d.name)) := by
        rw [throughParent, nameWithFile_eq]
        rfl
    _ = _ := by
        rw [ModPath.appendName_of_relative rfl, hup]
        rfl

theorem result_nameAt_other_file (h : d.file.name ≠ site.file) (hw : ¬ d.IsWellKnown)
    (hd : WellKnown.isDescriptorFile d.file = false) :
    (d.nameAt site).result = .ok
      ((ModPath.relative (List.replicate site.modules.length superSegment ++ d.home)).toName
        (Ident.escape d.name)) := by
  rw [result_nameAt, route, if_neg h, simpleName?_eq_none_iff.mpr hw, throughParent_eq]
  simp only [hd]
  rfl

/-! ## Home -/

/-- From a site in the declaring file the shortest path leads home. -/
theorem walk_same_file (h : d.file.name = site.file) (hs : site.within.absolute = false) :
    ∃ name, (d.nameAt site).result = .ok name ∧ name.path.absolute = false ∧
      ModPath.walk site.modules name.path.segments = some d.home ∧
      name.ident = Ident.escape d.name := by
  have hmodules : superSegment ∉ d.nameInFile.path.segments :=
    fun hm => super_not_mem_home (List.mem_cons_of_mem _ hm)
  obtain ⟨p, hp, hrel, hwalk⟩ := ModPath.walk_toward hs rfl hmodules
  refine ⟨p.toName (Ident.escape d.name), ?_, hrel, ?_, rfl⟩
  · rw [result_nameAt_same_file h, QualName.seenFrom, hp]
    rfl
  · rw [Site.modules, home, h]
    exact hwalk [Ident.fileModule site.file]

/-- From a site in another file the way leads through the top of the tree. -/
theorem walk_other_file (h : d.file.name ≠ site.file) (hw : ¬ d.IsWellKnown)
    (hd : WellKnown.isDescriptorFile d.file = false) :
    ∃ name, (d.nameAt site).result = .ok name ∧ name.path.absolute = false ∧
      ModPath.walk site.modules name.path.segments = some d.home ∧
      name.ident = Ident.escape d.name := by
  refine ⟨_, result_nameAt_other_file h hw hd, rfl, ?_, rfl⟩
  exact ModPath.walk_up_down [] site.modules super_not_mem_home

/-- Naming fails in the declaring file only, at a site with an absolute path. -/
theorem exists_nameAt (h : d.file.name = site.file → site.within.absolute = false) :
    ∃ name, (d.nameAt site).result = .ok name := by
  by_cases hfile : d.file.name = site.file
  · obtain ⟨name, hname, -⟩ := walk_same_file hfile (h hfile)
    exact ⟨name, hname⟩
  by_cases hw : d.IsWellKnown
  · obtain ⟨simple, hmem, hname⟩ := hw
    exact ⟨_, result_nameAt_well_known hfile hmem hname⟩
  cases hd : WellKnown.isDescriptorFile d.file with
  | true => exact ⟨_, result_nameAt_descriptor hfile hw hd⟩
  | false => exact ⟨_, result_nameAt_other_file hfile hw hd⟩

/-- A type of the runtime library is written the same at every site outside its file. -/
theorem exists_runtimeName (hg : ¬ d.GeneratedBeside site) :
    ∃ name, d.RuntimeName name ∧ name.path.absolute = true ∧
      ∀ other : Site, d.file.name ≠ other.file → (d.nameAt other).result = .ok name := by
  by_cases hw : d.IsWellKnown
  · obtain ⟨simple, hmem, hname⟩ := hw
    exact ⟨_, .wellKnown simple hmem hname, rfl,
      fun _ ho => result_nameAt_well_known ho hmem hname⟩
  · have hd : WellKnown.isDescriptorFile d.file = true := by
      by_contra hd
      exact hg (.inr ⟨hw, by simpa using hd⟩)
    exact ⟨_, .descriptor hw hd, rfl, fun _ ho => result_nameAt_descriptor ho hw hd⟩

/-- The name of a generated type leads from the site to its home; the name of any other
    type is absolute, and does not depend on the site. -/
theorem a_name_leads_home (d : Declared) (site : Site) (hs : site.within.absolute = false) :
    (d.GeneratedBeside site →
      ∃ name, (d.nameAt site).result = .ok name ∧ name.path.absolute = false ∧
        ModPath.walk site.modules name.path.segments = some d.home ∧
        name.ident = Ident.escape d.name) ∧
    (¬ d.GeneratedBeside site →
      ∃ name, (d.nameAt site).result = .ok name ∧ d.RuntimeName name ∧
        name.path.absolute = true ∧
        ∀ other : Site, d.file.name ≠ other.file → (d.nameAt other).result = .ok name) := by
  constructor
  · intro hg
    by_cases h : d.file.name = site.file
    · exact walk_same_file h hs
    · obtain ⟨hw, hd⟩ := hg.resolve_left h
      exact walk_other_file h hw hd
  · intro hg
    have h : d.file.name ≠ site.file := fun h => hg (.inl h)
    obtain ⟨name, hname, habs, hall⟩ := exists_runtimeName hg
    exact ⟨name, hall site h, hname, habs, hall⟩

/-- An enum nested in a message of `shop/item-list.proto`. -/
def itemKind : Declared :=
  ⟨{ name := "shop/item-list.proto", package := "shop" }, ["HTTPRequest"], .enum ⟨"Self", []⟩⟩

/-- A message of the runtime library. -/
def timestamp : Declared :=
  ⟨{ name := "google/protobuf/timestamp.proto", package := "google.protobuf" }, [],
    .message { name := "Timestamp" }⟩

/-- From two modules deep in another file the name of the enum leads to the module of its
    message, and the name of the time stamp is the one it has everywhere. -/
theorem a_name_leads_home_from_another_file :
    let site : Site := ⟨"cart.proto", .relative ["outer", "super"]⟩
    site.within.absolute = false ∧
      (itemKind.GeneratedBeside site ∧
        ∃ name, (itemKind.nameAt site).result = .ok name ∧ name.path.absolute = false ∧
          ModPath.walk ["cart", "outer", "super"] name.path.segments =
            some ["item_list", "http_request"] ∧ name.ident = "Self_") ∧
      ¬ timestamp.GeneratedBeside site ∧
        ∃ name, (timestamp.nameAt site).result = .ok name ∧ timestamp.RuntimeName name ∧
          name.path.absolute = true ∧
          ∀ other : Site, timestamp.file.name ≠ other.file →
            (timestamp.nameAt other).result = .ok name := by
  intro site
  have hg : itemKind.GeneratedBeside site :=
    .inr ⟨simpleName?_eq_none_iff.mp (by decide +kernel), by decide +kernel⟩
  have hhome : itemKind.home = ["item_list", "http_request"] := by decide +kernel
  have hmodules : site.modules = ["cart", "outer", "super"] := by decide +kernel
  have hident : Ident.escape itemKind.name = "Self_" := by decide +kernel
  have ht : ¬ timestamp.GeneratedBeside site := by
    rintro (hfile | ⟨hw, -⟩)
    · exact absurd hfile (by decide)
    · exact hw ⟨"Timestamp", by decide, by decide⟩
  refine ⟨rfl, ⟨hg, ?_⟩, ht, (a_name_leads_home timestamp site rfl).2 ht⟩
  rw [← hhome, ← hmodules, ← hident]
  exact (a_name_leads_home itemKind site rfl).1 hg

end Declared

end RustSchema
