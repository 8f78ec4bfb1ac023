/-
  RustSchema.Proofs.Plain.Readings — what a reading says about its parts.

  A reading put together from parts is done exactly when all its parts are
  (`map_eq_done_iff`, `seq_eq_done_iff`), so a value that is read comes with the readings of
  its fields (`required_eq_done_iff`, `optional_eq_done`, `listOf_eq_done`), and a guard has let
  it in (`watch_eq_done_iff`).
-/

import RustSchema.Plain

namespace RustSchema

namespace Reading

variable {α β : Type} {f : α → β} {r : Reading α} {rf : Reading (α → β)} {a : α} {b : β}
  {step : Step}

theorem map_eq_done_iff : f <$> r = done b ↔ ∃ a, r = done a ∧ f a = b := by
  cases r <;> simp [Functor.map, map]

theorem seq_eq_done_iff :
    rf <*> r = done b ↔ ∃ g a, rf = done g ∧ r = done a ∧ g a = b := by
  cases rf <;> cases r <;> simp [Seq.seq, apply]

theorem map_seq_eq_done_iff {γ : Type} {g : α → γ → β} {s : Reading γ} :
    g <$> r <*> s = done b ↔ ∃ a c, r = done a ∧ s = done c ∧ g a c = b := by
  cases r <;> cases s <;> simp [Functor.map, map, Seq.seq, apply]

theorem under_eq_done_iff : r.under step = done a ↔ r = done a := by
  cases r <;> simp [under]

@[simp] theorem fail_ne_done (kind : ProblemKind) : (fail kind : Reading α) ≠ done a := by
  simp [fail]

end Reading

theorem Guard.watch_eq_done_iff {α : Type} {guard : Guard} {layers : List Layer}
    {reading : Reading α} {a : α} :
    guard.watch layers reading = .done a ↔ guard layers = none ∧ reading = .done a := by
  unfold watch
  cases guard layers <;> simp

namespace Plain

variable {α : Type} {entries : List (String × Plain)} {key : String} {read : Plain → Reading α}
  {a default : α}

/-! ## Fields -/

theorem required_eq_done_iff :
    required entries key read = .done a ↔ ∃ v, entries.lookup key = some v ∧ read v = .done a := by
  unfold required
  cases entries.lookup key <;> simp [Reading.under_eq_done_iff]

theorem optional_eq_done (h : optional entries key default read = .done a) :
    a = default ∨ ∃ v, read v = .done a := by
  unfold optional at h
  cases hlookup : entries.lookup key with
  | none =>
    rw [hlookup] at h
    cases h
    exact .inl rfl
  | some v =>
    rw [hlookup] at h
    exact .inr ⟨v, Reading.under_eq_done_iff.mp h⟩

/-! ## Lists -/

theorem itemsFrom_eq_done {i : Nat} {items : List Plain} {xs : List α}
    (h : itemsFrom read i items = .done xs) : ∀ x ∈ xs, ∃ v, read v = .done x := by
  induction items generalizing i xs with
  | nil =>
    cases h
    intro x hx
    cases hx
  | cons v items ih =>
    rw [itemsFrom, Reading.seq_eq_done_iff] at h
    obtain ⟨g, rest, hg, hrest, rfl⟩ := h
    obtain ⟨head, hhead, rfl⟩ := Reading.map_eq_done_iff.mp hg
    intro x hx
    rcases List.mem_cons.mp hx with rfl | hx
    · exact ⟨v, Reading.under_eq_done_iff.mp hhead⟩
    · exact ih hrest x hx

theorem listOf_eq_done {v : Plain} {xs : List α} (h : listOf read v = .done xs) :
    ∀ x ∈ xs, ∃ v, read v = .done x := by
  cases v with
  | list items => exact itemsFrom_eq_done h
  | _ => exact absurd h (Reading.fail_ne_done _)

end Plain

end RustSchema
