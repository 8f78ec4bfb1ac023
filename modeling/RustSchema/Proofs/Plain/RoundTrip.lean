/-
  RustSchema.Proofs.Plain.RoundTrip — a value survives being written and read again.

  Where no guard stops the reading, every value is read back as it was written, however deep its
  types or messages stand in one another (`Survives.read_write`). Where there is a guard, a value
  that it lets in is read back just so; and a value that was read has been let in. So to write
  what was read and to read it again changes nothing, whatever the guard (`Survives.stable`).

  `what_is_written_is_read_back` says so of all eight forms of plain data.
-/

import RustSchema.Proofs.Plain.Admission

namespace RustSchema

/-- What is written is read back, and what was read once is read again by whoever read it. -/
structure Survives {α : Type} (write : α → Plain) (read : Guard → Plain → Reading α) : Prop where
  read_write : ∀ a, read .off (write a) = .done a
  stable : ∀ guard v a, read guard v = .done a → read guard (write a) = .done a

/-- Without layers there is nothing to guard. -/
theorem survives_of_unguarded {α : Type} {write : α → Plain} {read : Plain → Reading α}
    (h : ∀ a, read (write a) = .done a) : Survives write fun _ => read :=
  ⟨h, fun _ _ a _ => h a⟩

/-- Every value of the eight forms survives being written and read again. -/
theorem what_is_written_is_read_back :
    Survives Ty.toPlain (Ty.ofPlainIn · []) ∧
    Survives ModPath.toPlain (fun _ => ModPath.ofPlain) ∧
    Survives QualName.toPlain (fun _ => QualName.ofPlain) ∧
    Survives Site.toPlain (fun _ => Site.ofPlain) ∧
    Survives Field.toPlain (fun _ => Field.ofPlain) ∧
    Survives EnumDecl.toPlain (fun _ => EnumDecl.ofPlain) ∧
    Survives MessageDecl.toPlain (MessageDecl.ofPlainIn · []) ∧
    Survives FileDecl.toPlain FileDecl.ofPlainBy := by
  refine ⟨⟨Ty.ofPlain_toPlain, fun guard v t h => ?_⟩, survives_of_unguarded ModPath.ofPlain_toPlain,
    survives_of_unguarded QualName.ofPlain_toPlain, survives_of_unguarded Site.ofPlain_toPlain,
    survives_of_unguarded Field.ofPlain_toPlain, survives_of_unguarded EnumDecl.ofPlain_toPlain,
    ⟨MessageDecl.ofPlain_toPlain, fun guard v decl h => ?_⟩,
    ⟨FileDecl.ofPlain_toPlain, fun guard v file h => ?_⟩⟩
  · exact Ty.ofPlainIn_toPlain (Ty.admitted_of_ofPlainIn h)
  · exact MessageDecl.ofPlainIn_toPlain (MessageDecl.admitted_of_ofPlainIn h)
  · exact FileDecl.ofPlainBy_toPlain (FileDecl.admitted_of_ofPlainBy h)

end RustSchema
