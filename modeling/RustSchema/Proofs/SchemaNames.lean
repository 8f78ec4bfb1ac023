/-
  RustSchema.Proofs.SchemaNames — absolute schema names, cut at their dots.

  An absolute name joins the package, the enclosing messages and the name of a declaration
  with dots (`absoluteName_eq`), and nothing in it says where one of these parts ends: a
  package has dots of its own, and so may any other part. What can be read back are the
  labels between the dots, which are those of the parts, one part after the other
  (`labels_intercalate`).

  So in one package, where no name has a dot, the absolute name determines the declaration's
  place, which is its name and the names around it (`place_eq_of_absoluteName_eq`).
-/

import RustSchema.Scope

namespace RustSchema

namespace SchemaName

/-- What stands between the dots of a schema name. -/
def labels (text : String) : List (List Char) := text.toList.splitOn '.'

theorem labels_ne_nil (text : String) : labels text ≠ [] := List.splitOn_ne_nil _ _

theorem labels_of_no_dot {text : String} (h : '.' ∉ text.toList) : labels text = [text.toList] :=
  List.splitOn_eq_singleton h

/-- The text is its labels with the dots between them. -/
theorem toList_eq_of_labels {text : String} {ls : List (List Char)} (h : labels text = ls) :
    text.toList = ['.'].intercalate ls := by
  rw [← h, labels, List.intercalate_splitOn]

theorem labels_injective : Function.Injective labels := by
  intro text text' h
  apply String.toList_injective
  rw [toList_eq_of_labels h, toList_eq_of_labels rfl]

theorem labels_append_dot (before after : String) :
    labels (before ++ "." ++ after) = labels before ++ labels after := by
  have htext : (before ++ "." ++ after).toList = before.toList ++ '.' :: after.toList := by simp
  rw [labels, htext, List.splitOn_append_cons_self, labels, labels]

theorem labels_intercalate {parts : List String} (h : parts ≠ []) :
    labels (".".intercalate parts) = parts.flatMap labels := by
  induction parts with
  | nil => exact absurd rfl h
  | cons part rest ih =>
    by_cases hrest : rest = []
    · simp [hrest]
    · rw [String.intercalate_cons_of_ne_nil hrest, labels_append_dot, ih hrest, List.flatMap_cons]

/-- Without dots each part is a label. -/
theorem flatMap_labels_of_no_dot {parts : List String} (h : ∀ part ∈ parts, '.' ∉ part.toList) :
    parts.flatMap labels = parts.map String.toList := by
  induction parts with
  | nil => rfl
  | cons part rest ih =>
    rw [List.flatMap_cons, List.map_cons, labels_of_no_dot (h part List.mem_cons_self),
      ih fun p hp => h p (List.mem_cons_of_mem _ hp), List.singleton_append]

end SchemaName

namespace Declared

open SchemaName

variable {d e : Declared}

/-- The names that lead to the declaration inside its file, its own the last. -/
def place (d : Declared) : List String := d.enclosing ++ [d.name]

/-- What the absolute name joins; an empty package is no part of it. -/
def parts (d : Declared) : List String :=
  if d.file.package = "" then d.place else d.file.package :: d.place

theorem place_ne_nil (d : Declared) : d.place ≠ [] := by simp [place]

theorem parts_ne_nil (d : Declared) : d.parts ≠ [] := by
  unfold parts
  split <;> simp [place]

theorem place_eq_iff {enclosing : List String} {name : String} :
    d.place = enclosing ++ [name] ↔ d.enclosing = enclosing ∧ d.name = name := by
  simp [place]

theorem absoluteName_eq (d : Declared) : d.absoluteName = "." ++ ".".intercalate d.parts := by
  unfold absoluteName parts place
  split <;> simp

/-- In one package a name without dots tells the place of the declaration. -/
theorem place_eq_of_absoluteName_eq (hpackage : d.file.package = e.file.package)
    (hd : ∀ name ∈ d.place, '.' ∉ name.toList) (he : ∀ name ∈ e.place, '.' ∉ name.toList)
    (h : d.absoluteName = e.absoluteName) : d.place = e.place := by
  have hjoined : ".".intercalate d.parts = ".".intercalate e.parts := by
    rwa [absoluteName_eq, absoluteName_eq, String.append_right_inj] at h
  have hlabels : d.parts.flatMap labels = e.parts.flatMap labels := by
    rw [← labels_intercalate d.parts_ne_nil, hjoined, labels_intercalate e.parts_ne_nil]
  have hplaces : d.place.flatMap labels = e.place.flatMap labels := by
    unfold parts at hlabels
    rw [hpackage] at hlabels
    split at hlabels
    · exact hlabels
    · simpa using hlabels
  rw [flatMap_labels_of_no_dot hd, flatMap_labels_of_no_dot he] at hplaces
  exact (List.map_inj_right fun _ _ => String.toList_inj.mp).mp hplaces

end Declared

end RustSchema
