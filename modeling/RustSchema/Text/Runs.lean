/-
  RustSchema.Text.Runs — sets of characters given as runs of code points.
-/

namespace RustSchema.Text

/-- A run of code points holds both of its ends. -/
def inRuns (runs : List (Nat × Nat)) (c : Char) : Bool :=
  runs.any fun run => run.1 ≤ c.toNat && c.toNat ≤ run.2

end RustSchema.Text
