/-
  RustSchema.TypedValue — an expression of generated code together with its type.

  A value is converted step by step; a step that has no conversion leaves it as it was, so
  a run of steps always ends in a value.
-/

import RustSchema.Conversion
import RustSchema.Ty.Value

namespace RustSchema

structure TypedValue where
  value : String
  ty : Ty
  deriving DecidableEq, Repr

namespace TypedValue

def ofDefault (ty : Ty) : Except Error TypedValue := ty.defaultValue.map (⟨·, ty⟩)

def into (v : TypedValue) (target : Ty) : Except Error TypedValue :=
  (convert v.ty target v.value).result.map (⟨·, target⟩)

def boxed (v : TypedValue) : Except Error TypedValue := v.into (.box v.ty)

/-! ## Runs -/

inductive Step where
  | into (target : Ty)
  | boxed
  deriving DecidableEq, Repr

def attempt (v : TypedValue) : Step → Except Error TypedValue
  | .into target => v.into target
  | .boxed => v.boxed

/-- What each step of a run gives, and the value each next step starts from: the last one
    that a step gave. -/
def run (v : TypedValue) : List Step → List (Except Error TypedValue)
  | [] => []
  | step :: rest =>
    let outcome := v.attempt step
    outcome :: (outcome.toOption.getD v).run rest

end TypedValue

end RustSchema
