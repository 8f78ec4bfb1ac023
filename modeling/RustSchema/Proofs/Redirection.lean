/-
  RustSchema.Proofs.Redirection — which declarations are replaced by a well-known type.

  A well-known type is a top-level type of package `google.protobuf`
  (`Declared.IsTopLevelWellKnown`), but it is recognised by its absolute name, which has three
  labels. Any declaration whose package, enclosing messages and name have these labels between
  them has the same absolute name. Three labels are cut into parts in four ways
  (`cut_of_three`), and a first part may be a package or a message; all but one of the
  declarations that come out of it are look-alikes (`WellKnown.LookAlike`).

  `redirected_to_the_runtime_iff`: at a site outside its file a declaration is written as a
  well-known type of the runtime exactly when it is one or looks like one. Not all look-alikes
  need a dot in a name: a type nested in a message `protobuf` of package `google` is one
  (`a_nested_type_is_redirected`).
-/

import RustSchema.Proofs.Lookup
import RustSchema.Proofs.Naming
import RustSchema.Proofs.SchemaNames

namespace RustSchema

/-! ## Cutting three labels -/

namespace SchemaName

variable {α : Type} {a b c : α} {as : List α} {ls : List (List α)}

/-- The first element stands alone, or in front of the piece that comes next. -/
theorem cut_cons_cons (hne : [] ∉ ls) (h : ls.flatten = a :: b :: as) :
    ∃ l rest, [] ∉ l :: rest ∧ (l :: rest).flatten = b :: as ∧
      (ls = [a] :: l :: rest ∨ ls = (a :: l) :: rest) := by
  rcases ls with _ | ⟨_ | ⟨x, l⟩, rest⟩
  · cases h
  · exact absurd List.mem_cons_self hne
  rw [List.flatten_cons, List.cons_append, List.cons.injEq] at h
  obtain ⟨rfl, h⟩ := h
  have hrest : [] ∉ rest := fun hmem => hne (List.mem_cons_of_mem _ hmem)
  rcases l with _ | ⟨y, l⟩
  · rcases rest with _ | ⟨l, rest⟩
    · cases h
    · exact ⟨l, rest, hrest, h, .inl rfl⟩
  · exact ⟨y :: l, rest, by simp [hrest], h, .inr rfl⟩

theorem cut_singleton (hne : [] ∉ ls) (h : ls.flatten = [a]) : ls = [[a]] := by
  rcases ls with _ | ⟨_ | ⟨x, l⟩, rest⟩
  · cases h
  · exact absurd List.mem_cons_self hne
  rw [List.flatten_cons, List.cons_append, List.cons.injEq, List.append_eq_nil_iff] at h
  obtain ⟨rfl, rfl, hrest⟩ := h
  rcases rest with _ | ⟨l, rest⟩
  · rfl
  · obtain rfl : l = [] := (List.append_eq_nil_iff.mp hrest).1
    simp at hne

theorem cut_of_three (hne : [] ∉ ls) (h : ls.flatten = [a, b, c]) :
    ls = [[a, b, c]] ∨ ls = [[a], [b, c]] ∨ ls = [[a, b], [c]] ∨ ls = [[a], [b], [c]] := by
  obtain ⟨l, rest, hne, h, hfirst⟩ := cut_cons_cons hne h
  obtain ⟨l', rest', hne, h, hsecond⟩ := cut_cons_cons hne h
  obtain ⟨rfl, rfl⟩ : l' = [c] ∧ rest' = [] := by simpa using cut_singleton hne h
  -- two choices, at the second element and at the first, make four cuts
  rcases hsecond with hsecond | hsecond
  all_goals
    obtain ⟨rfl, rfl⟩ : _ ∧ _ := by simpa using hsecond
    rcases hfirst with rfl | rfl <;> simp

end SchemaName

/-! ## Look-alikes -/

namespace WellKnown

open SchemaName

/-- Where else, by its package, the messages around it and its name, a declaration stands that
    has the absolute name of the well-known type `simple`. -/
inductive LookAlike (simple : String) : String → List String → String → Prop
  | nested : LookAlike simple "google" ["protobuf"] simple
  | nestedTwice : LookAlike simple "" ["google", "protobuf"] simple
  | inDottedMessage : LookAlike simple "" ["google.protobuf"] simple
  | dotted : LookAlike simple "google" [] ("protobuf." ++ simple)
  | nestedDotted : LookAlike simple "" ["google"] ("protobuf." ++ simple)
  | allDotted : LookAlike simple "" [] ("google.protobuf." ++ simple)

theorem LookAlike.package_ne {simple before name : String} {enclosing : List String}
    (h : LookAlike simple before enclosing name) : before ≠ package := by
  cases h <;> decide

/-- What joins up to the absolute name of a well-known type. -/
theorem parts_of_wellKnown {parts : List String} {simple : String} (hs : '.' ∉ simple.toList)
    (h : parts.flatMap labels = labels (package ++ "." ++ simple)) :
    parts = ["google.protobuf." ++ simple] ∨ parts = ["google", "protobuf." ++ simple] ∨
      parts = ["google.protobuf", simple] ∨ parts = ["google", "protobuf", simple] := by
  have hsimple : labels simple = [simple.toList] := labels_of_no_dot hs
  have hshort : labels ("protobuf" ++ "." ++ simple) = ["protobuf".toList, simple.toList] := by
    rw [labels_append_dot, hsimple]
    rfl
  have hfull : labels (package ++ "." ++ simple) =
      ["google".toList, "protobuf".toList, simple.toList] := by
    rw [labels_append_dot, hsimple]
    rfl
  have hcut : ∀ qs : List String, parts.map labels = qs.map labels → parts = qs := fun qs =>
    (List.map_inj_right labels_injective).mp
  have hne : [] ∉ parts.map labels := by simp [labels_ne_nil]
  rcases cut_of_three hne (h.trans hfull) with hparts | hparts | hparts | hparts
  · refine .inl (hcut _ ?_)
    rw [hparts, ← hfull]
    rfl
  · refine .inr (.inl (hcut _ ?_))
    rw [hparts, ← hshort]
    rfl
  · refine .inr (.inr (.inl (hcut _ ?_)))
    rw [hparts, ← hsimple]
    rfl
  · refine .inr (.inr (.inr (hcut _ ?_)))
    rw [hparts, ← hsimple]
    rfl

end WellKnown

namespace Declared

open SchemaName

variable {d : Declared} {site : Site}

/-- A type of the package itself that has the name of a well-known type. -/
def IsTopLevelWellKnown (d : Declared) : Prop :=
  d.enclosing = [] ∧ d.file.package = WellKnown.package ∧ d.name ∈ WellKnown.typeNames

def LooksWellKnown (d : Declared) : Prop :=
  ∃ simple ∈ WellKnown.typeNames, WellKnown.LookAlike simple d.file.package d.enclosing d.name

theorem not_looksWellKnown (h : d.IsTopLevelWellKnown) : ¬ d.LooksWellKnown := by
  rintro ⟨simple, -, hlook⟩
  exact hlook.package_ne h.2.1

theorem looksWellKnown_of_place {simple before name : String} {enclosing : List String}
    (hlook : WellKnown.LookAlike simple before enclosing name)
    (hmem : simple ∈ WellKnown.typeNames) (hpackage : d.file.package = before)
    (hplace : d.place = enclosing ++ [name]) : d.LooksWellKnown := by
  obtain ⟨henclosing, hname⟩ := place_eq_iff.mp hplace
  refine ⟨simple, hmem, ?_⟩
  rwa [hpackage, henclosing, hname]

/-- The absolute name does not say whether its first part is the package or a message. -/
theorem topLevel_or_looks_of_parts {simple : String} (hmem : simple ∈ WellKnown.typeNames)
    (h : d.parts = ["google.protobuf." ++ simple] ∨ d.parts = ["google", "protobuf." ++ simple] ∨
      d.parts = ["google.protobuf", simple] ∨ d.parts = ["google", "protobuf", simple]) :
    d.IsTopLevelWellKnown ∨ d.LooksWellKnown := by
  by_cases hempty : d.file.package = ""
  · right
    rw [parts, if_pos hempty] at h
    rcases h with h | h | h | h
    · exact looksWellKnown_of_place .allDotted hmem hempty h
    · exact looksWellKnown_of_place .nestedDotted hmem hempty h
    · exact looksWellKnown_of_place .inDottedMessage hmem hempty h
    · exact looksWellKnown_of_place .nestedTwice hmem hempty h
  · simp only [parts, if_neg hempty, List.cons.injEq] at h
    rcases h with ⟨-, hplace⟩ | ⟨hpackage, hplace⟩ | ⟨hpackage, hplace⟩ | ⟨hpackage, hplace⟩
    · exact absurd hplace d.place_ne_nil
    · exact .inr (looksWellKnown_of_place .dotted hmem hpackage hplace)
    · rw [← List.nil_append [simple], place_eq_iff] at hplace
      exact .inl ⟨hplace.1, hpackage, hplace.2 ▸ hmem⟩
    · exact .inr (looksWellKnown_of_place .nested hmem hpackage hplace)

theorem isWellKnown_of_topLevel (h : d.IsTopLevelWellKnown) : d.IsWellKnown := by
  obtain ⟨henclosing, hpackage, hmem⟩ := h
  refine ⟨d.name, hmem, ?_⟩
  rw [absoluteName_eq, parts, place, henclosing, hpackage, if_neg (by decide)]
  simp [String.append_assoc]

theorem isWellKnown_of_looks (h : d.LooksWellKnown) : d.IsWellKnown := by
  obtain ⟨simple, hmem, hlook⟩ := h
  refine ⟨simple, hmem, ?_⟩
  rw [absoluteName_eq, parts, place]
  generalize d.file.package = before at hlook
  generalize d.enclosing = enclosing at hlook
  generalize d.name = name at hlook
  apply String.toList_injective
  -- in each case the parts are the same letters in another division
  cases hlook <;> simp [WellKnown.package]

theorem isWellKnown_iff : d.IsWellKnown ↔ d.IsTopLevelWellKnown ∨ d.LooksWellKnown := by
  constructor
  · rintro ⟨simple, hmem, hname⟩
    rw [absoluteName_eq, String.append_assoc, String.append_assoc, String.append_right_inj,
      ← String.append_assoc] at hname
    apply topLevel_or_looks_of_parts hmem
    apply WellKnown.parts_of_wellKnown (WellKnown.typeNames_no_dot simple hmem)
    rw [← labels_intercalate d.parts_ne_nil, hname]
  · rintro (h | h)
    · exact isWellKnown_of_topLevel h
    · exact isWellKnown_of_looks h

/-! ## The name at a site outside the file -/

theorem path_eq_typesModule_iff (h : d.file.name ≠ site.file) :
    ∃ name, (d.nameAt site).result = .ok name ∧
      (name.path = WellKnown.typesModule ↔ d.IsWellKnown) := by
  by_cases hw : d.IsWellKnown
  · obtain ⟨simple, hmem, hname⟩ := hw
    exact ⟨_, result_nameAt_well_known h hmem hname, fun _ => ⟨simple, hmem, hname⟩, fun _ => rfl⟩
  cases hd : WellKnown.isDescriptorFile d.file with
  | true =>
    refine ⟨_, result_nameAt_descriptor h hw hd, ?_⟩
    simp [hw, WellKnown.typesModule]
  | false =>
    refine ⟨_, result_nameAt_other_file h hw hd, ?_⟩
    simp [hw, WellKnown.typesModule, ModPath.toName, ModPath.relative]

/-- At a site outside its file a declaration is written as a well-known type of the runtime
    exactly when it is a top-level type of the package with such a name, or looks like one. So
    being such a type decides it for every declaration but the look-alikes. -/
theorem redirected_to_the_runtime_iff (d : Declared) (site : Site) (h : d.file.name ≠ site.file) :
    ∃ name, (d.nameAt site).result = .ok name ∧
      (name.path = WellKnown.typesModule ↔ d.IsTopLevelWellKnown ∨ d.LooksWellKnown) ∧
      ((name.path = WellKnown.typesModule ↔ d.IsTopLevelWellKnown) ↔ ¬ d.LooksWellKnown) := by
  obtain ⟨name, hname, hpath⟩ := path_eq_typesModule_iff h
  refine ⟨name, hname, hpath.trans isWellKnown_iff, ?_⟩
  rw [hpath, isWellKnown_iff]
  constructor
  · intro hsame hlooks
    exact not_looksWellKnown (hsame.mp (.inr hlooks)) hlooks
  · intro hlooks
    exact or_iff_left hlooks

/-- An enum nested in two messages that stand for the package is replaced. -/
theorem redirected_to_the_runtime_iff_without_package :
    let d : Declared := ⟨{ name := "root.proto" }, ["google", "protobuf"], .enum ⟨"Syntax", []⟩⟩
    let site : Site := ⟨"cart.proto", .relative ["outer"]⟩
    d.file.name ≠ site.file ∧ d.LooksWellKnown ∧ ¬ d.IsTopLevelWellKnown ∧
      ∃ name, (d.nameAt site).result = .ok name ∧ name.path = WellKnown.typesModule := by
  intro d site
  have hfile : d.file.name ≠ site.file := by decide
  have hlooks : d.LooksWellKnown := ⟨"Syntax", by decide, .nestedTwice⟩
  obtain ⟨name, hname, hredirected, -⟩ := redirected_to_the_runtime_iff d site hfile
  exact ⟨hfile, hlooks, fun h => not_looksWellKnown h hlooks, name, hname,
    hredirected.mpr (.inr hlooks)⟩

/-- A message of package `google` with a nested message: at a site in another file the nested
    one is taken for a type of package `google.protobuf`. -/
theorem a_nested_type_is_redirected :
    let outer : MessageDecl := { name := "protobuf", nested := [{ name := "Timestamp" }] }
    let file : FileDecl := { name := "google.proto", package := "google", messages := [outer] }
    let d : Declared := ⟨file, ["protobuf"], .message { name := "Timestamp" }⟩
    let site : Site := ⟨"cart.proto", {}⟩
    (Scope.ofFiles [file]).find ".google.protobuf.Timestamp" = .ok d ∧
      d.file.name ≠ site.file ∧
      (d.nameAt site).result = .ok ⟨WellKnown.typesModule, "Timestamp"⟩ ∧
      ¬ (d.enclosing = [] ∧ d.file.package = "google.protobuf" ∧
        d.name ∈ WellKnown.typeNames) := by
  intro outer file d site
  have hname : d.absoluteName = "." ++ WellKnown.package ++ "." ++ "Timestamp" := by
    decide +kernel
  refine ⟨?_, by decide, result_nameAt_well_known (by decide) (by decide) hname, ?_⟩
  · rw [Scope.find_eq_ok_iff, Scope.find?_ofFiles, Scope.lastNamed_eq_some_iff]
    exact ⟨[⟨file, [], .message outer⟩], [], rfl, hname, by simp⟩
  · rintro ⟨henclosing, -⟩
    cases henclosing

end Declared

end RustSchema
