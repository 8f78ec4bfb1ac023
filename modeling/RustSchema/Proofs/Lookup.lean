/-
  RustSchema.Proofs.Lookup — which declaration a name finds.

  A scope is a table that later declarations overwrite. A lookup in it is the search, from the
  end, through the list of what the files declare (`find?_ofFiles`), and everything about
  lookups is read off that list: two parts of it are searched one after the other
  (`lastNamed_append`), and where no name is declared twice their order plays no part
  (`lastNamed_congr`).

  `the_last_declaration_is_found`: a name finds the last declaration of that name, and fails
  exactly where there is none. So a lookup in two groups of files is one in the later group,
  and in the earlier one where that fails; and where no name is declared twice, the files may
  come in any order.
-/

import Mathlib.Data.List.Induction
import Mathlib.Data.List.Nodup
import RustSchema.Scope

namespace RustSchema

namespace Scope

/-- What the files declare, in the order in which the table takes it up. -/
def declared (files : List FileDecl) : List Declared := files.flatMap FileDecl.declarations

/-- The last of the declarations that has the name. -/
def lastNamed (name : String) (ds : List Declared) : Option Declared :=
  ds.reverse.find? fun d => d.absoluteName = name

variable {name : String} {ds es : List Declared} {d : Declared}

/-! ## The last declaration of a name -/

theorem lastNamed_append (name : String) (ds es : List Declared) :
    lastNamed name (ds ++ es) = (lastNamed name es).or (lastNamed name ds) := by
  rw [lastNamed, List.reverse_append, List.find?_append, lastNamed, lastNamed]

theorem lastNamed_concat (name : String) (ds : List Declared) (d : Declared) :
    lastNamed name (ds ++ [d]) = if d.absoluteName = name then some d else lastNamed name ds := by
  rw [lastNamed_append, lastNamed, List.reverse_singleton, List.find?_singleton]
  by_cases h : d.absoluteName = name <;> simp [h]

theorem lastNamed_eq_none_iff : lastNamed name ds = none ↔ ∀ d ∈ ds, d.absoluteName ≠ name := by
  simp [lastNamed]

/-- It has the name, and none of those after it does. -/
theorem lastNamed_eq_some_iff :
    lastNamed name ds = some d ↔ ∃ before after, ds = before ++ d :: after ∧
      d.absoluteName = name ∧ ∀ e ∈ after, e.absoluteName ≠ name := by
  constructor
  · intro h
    obtain ⟨hname, after, before, hrev, hafter⟩ := List.find?_eq_some_iff_append.mp h
    refine ⟨before.reverse, after.reverse, ?_, by simpa using hname, by simpa using hafter⟩
    rw [← List.reverse_inj, hrev]
    simp
  · rintro ⟨before, after, rfl, hname, hafter⟩
    rw [List.append_cons, lastNamed_append, lastNamed_eq_none_iff.mpr hafter, Option.none_or,
      lastNamed_concat, if_pos hname]

theorem mem_of_lastNamed (h : lastNamed name ds = some d) : d ∈ ds ∧ d.absoluteName = name := by
  obtain ⟨before, after, rfl, hname, -⟩ := lastNamed_eq_some_iff.mp h
  exact ⟨by simp, hname⟩

/-- Where no name is declared twice, the last declaration of a name is its only one. -/
theorem lastNamed_eq_some_iff_of_nodup (hnodup : (ds.map Declared.absoluteName).Nodup) :
    lastNamed name ds = some d ↔ d ∈ ds ∧ d.absoluteName = name := by
  refine ⟨mem_of_lastNamed, ?_⟩
  rintro ⟨hmem, hname⟩
  cases hlast : lastNamed name ds with
  | none => exact absurd hname (lastNamed_eq_none_iff.mp hlast d hmem)
  | some last =>
    obtain ⟨hlastMem, hlastName⟩ := mem_of_lastNamed hlast
    rw [List.inj_on_of_nodup_map hnodup hlastMem hmem (hlastName.trans hname.symm)]

theorem lastNamed_congr (hnodup : (ds.map Declared.absoluteName).Nodup) (hperm : ds.Perm es)
    (name : String) : lastNamed name es = lastNamed name ds := by
  have hnodup' : (es.map Declared.absoluteName).Nodup :=
    (hperm.map Declared.absoluteName).nodup_iff.mp hnodup
  apply Option.ext
  intro d
  rw [lastNamed_eq_some_iff_of_nodup hnodup, lastNamed_eq_some_iff_of_nodup hnodup', hperm.mem_iff]

/-! ## The table -/

/-- Each declaration goes over those before it. -/
theorem getElem?_foldl_add (ds : List Declared) (name : String) :
    (ds.foldl add ∅)[name]? = lastNamed name ds := by
  -- from the end of the list, as the declaration added last is found first
  induction ds using List.reverseRecOn with
  | nil => exact Std.HashMap.getElem?_empty
  | append_singleton ds d ih =>
    rw [List.foldl_append, List.foldl_cons, List.foldl_nil, add, Std.HashMap.getElem?_insert, ih,
      lastNamed_concat]
    simp only [beq_iff_eq]

theorem find?_ofFiles (files : List FileDecl) (name : String) :
    (ofFiles files).find? name = lastNamed name (declared files) := by
  rw [find?, table_ofFiles, getElem?_foldl_add, declared]

theorem find_eq_ok_iff {scope : Scope} : scope.find name = .ok d ↔ scope.find? name = some d := by
  unfold find
  cases scope.find? name <;> simp

theorem find_eq_error_iff {scope : Scope} {e : Error} :
    scope.find name = .error e ↔ scope.find? name = none ∧ e = .undeclared name := by
  unfold find
  cases scope.find? name <;> simp [eq_comm]

theorem declared_append (files more : List FileDecl) :
    declared (files ++ more) = declared files ++ declared more :=
  List.flatMap_append

theorem declared_perm {files files' : List FileDecl} (h : files.Perm files') :
    (declared files).Perm (declared files') :=
  h.flatMap_right _

/-- A name finds the last declaration of that name, and fails where there is none. -/
theorem the_last_declaration_is_found (files : List FileDecl) (name : String) :
    (∀ d, (ofFiles files).find name = .ok d ↔ ∃ before after,
      declared files = before ++ d :: after ∧ d.absoluteName = name ∧
        ∀ later ∈ after, later.absoluteName ≠ name) ∧
    (∀ e, (ofFiles files).find name = .error e ↔
      e = .undeclared name ∧ ∀ d ∈ declared files, d.absoluteName ≠ name) ∧
    (∀ d, (ofFiles files).find name = .ok d → d ∈ declared files ∧ d.absoluteName = name) ∧
    (∀ more, (ofFiles (files ++ more)).find? name =
      ((ofFiles more).find? name).or ((ofFiles files).find? name)) ∧
    (((declared files).map Declared.absoluteName).Nodup → ∀ files', files.Perm files' →
      (ofFiles files').find name = (ofFiles files).find name) := by
  refine ⟨fun d => ?_, fun e => ?_, fun d h => ?_, fun more => ?_, fun hnodup files' hperm => ?_⟩
  · rw [find_eq_ok_iff, find?_ofFiles, lastNamed_eq_some_iff]
  · rw [find_eq_error_iff, find?_ofFiles, lastNamed_eq_none_iff, and_comm]
  · rw [find_eq_ok_iff, find?_ofFiles] at h
    exact mem_of_lastNamed h
  · rw [find?_ofFiles, find?_ofFiles, find?_ofFiles, declared_append, lastNamed_append]
  · have hfind : (ofFiles files').find? name = (ofFiles files).find? name := by
      rw [find?_ofFiles, find?_ofFiles, lastNamed_congr hnodup (declared_perm hperm)]
    rw [find, find, hfind]

/-- A message with a nested message and an enum. -/
def shopFile : FileDecl :=
  { name := "shop.proto", package := "shop",
    messages := [{ name := "Order", nested := [{ name := "Line" }], enums := [⟨"Kind", []⟩] }] }

/-- A package named like the nested message. -/
def lineFile : FileDecl :=
  { name := "line.proto", package := "shop.Order.Line", enums := [⟨"Kind", ["NONE"]⟩] }

/-- No name is declared twice by the two files, so the enum of the package is found though its
    file comes first. -/
theorem the_last_declaration_is_found_in_any_order :
    ((declared [shopFile, lineFile]).map Declared.absoluteName).Nodup ∧
      [shopFile, lineFile].Perm [lineFile, shopFile] ∧
      (ofFiles [lineFile, shopFile]).find ".shop.Order.Line.Kind" =
        (ofFiles [shopFile, lineFile]).find ".shop.Order.Line.Kind" ∧
      (ofFiles [shopFile, lineFile]).find ".shop.Order.Line.Kind" =
        .ok ⟨lineFile, [], .enum ⟨"Kind", ["NONE"]⟩⟩ := by
  have hnodup : ((declared [shopFile, lineFile]).map Declared.absoluteName).Nodup := by
    decide +kernel
  have hperm : [shopFile, lineFile].Perm [lineFile, shopFile] := List.Perm.swap _ _ _
  obtain ⟨hfound, -, -, -, horder⟩ :=
    the_last_declaration_is_found [shopFile, lineFile] ".shop.Order.Line.Kind"
  refine ⟨hnodup, hperm, horder hnodup _ hperm, (hfound _).mpr ?_⟩
  exact ⟨declared [shopFile], [], rfl, by decide +kernel, by simp⟩

end Scope

end RustSchema
