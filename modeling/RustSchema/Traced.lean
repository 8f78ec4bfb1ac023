/-
  RustSchema.Traced — computations that may fail and keep a log.

  The log outlives a failure: what was logged before it stays (`log_bind`).
-/

import RustSchema.Event

namespace RustSchema

theorem Except.bind_eq_ok_iff {ε α β : Type} {r : Except ε α} {f : α → Except ε β} {b : β} :
    r.bind f = .ok b ↔ ∃ a, r = .ok a ∧ f a = .ok b := by
  cases r <;> simp [Except.bind]

theorem Except.map_eq_ok_iff {ε α β : Type} {r : Except ε α} {f : α → β} {b : β} :
    r.map f = .ok b ↔ ∃ a, r = .ok a ∧ f a = b := by
  cases r <;> simp [Except.map]

structure Traced (ε α : Type) where
  result : Except ε α
  log : List Event

namespace Traced

variable {ε α β : Type}

def ok (a : α) : Traced ε α := ⟨.ok a, []⟩

def ofExcept (r : Except ε α) : Traced ε α := ⟨r, []⟩

def note (event : Event) : Traced ε Unit := ⟨.ok (), [event]⟩

def bind (x : Traced ε α) (f : α → Traced ε β) : Traced ε β :=
  match x.result with
  | .ok a => ⟨(f a).result, x.log ++ (f a).log⟩
  | .error e => ⟨.error e, x.log⟩

instance : Monad (Traced ε) where
  pure := ok
  bind := bind

instance : MonadLift (Except ε) (Traced ε) := ⟨ofExcept⟩

@[simp] theorem result_ok (a : α) : (ok a : Traced ε α).result = .ok a := rfl

@[simp] theorem log_ok (a : α) : (ok a : Traced ε α).log = [] := rfl

@[simp] theorem result_pure (a : α) : (pure a : Traced ε α).result = .ok a := rfl

@[simp] theorem log_pure (a : α) : (pure a : Traced ε α).log = [] := rfl

@[simp] theorem result_ofExcept (r : Except ε α) : (ofExcept r).result = r := rfl

@[simp] theorem log_ofExcept (r : Except ε α) : (ofExcept r).log = [] := rfl

@[simp] theorem result_note (event : Event) : (note event : Traced ε Unit).result = .ok () := rfl

@[simp] theorem log_note (event : Event) : (note event : Traced ε Unit).log = [event] := rfl

@[simp] theorem result_liftM (r : Except ε α) : (liftM r : Traced ε α).result = r := rfl

theorem result_ite (p : Prop) [Decidable p] (x y : Traced ε α) :
    (if p then x else y).result = if p then x.result else y.result := by
  split <;> rfl

theorem result_bind (x : Traced ε α) (f : α → Traced ε β) :
    (x >>= f).result = x.result.bind fun a => (f a).result := by
  cases x with
  | mk r log => cases r <;> rfl

theorem log_bind (x : Traced ε α) (f : α → Traced ε β) :
    (x >>= f).log = x.log ++ x.result.toOption.elim [] fun a => (f a).log := by
  cases x with
  | mk r log => cases r <;> simp [Bind.bind, bind, Except.toOption]

end Traced

end RustSchema
