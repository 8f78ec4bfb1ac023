/-
  RustSchema.Ty — the types that generated code uses.

  The set is closed, and equality is structural: two types of the same shape with the same
  payload are one type. `str` and `[T]` stand only behind a reference in real code; here
  they are types of their own, so that `&str` and `&[T]` need no special case.
-/

import RustSchema.ModPath

namespace RustSchema

inductive IntWidth where
  | w8
  | w16
  | w32
  | w64
  deriving DecidableEq, Repr

inductive FloatWidth where
  | w32
  | w64
  deriving DecidableEq, Repr

def IntWidth.bits : IntWidth → Nat
  | .w8 => 8
  | .w16 => 16
  | .w32 => 32
  | .w64 => 64

def FloatWidth.bits : FloatWidth → Nat
  | .w32 => 32
  | .w64 => 64

def IntWidth.all : List IntWidth := [.w8, .w16, .w32, .w64]

def FloatWidth.all : List FloatWidth := [.w32, .w64]

inductive Ty where
  | int (signed : Bool) (width : IntWidth)
  | float (width : FloatWidth)
  | bool
  /-- Owned text. -/
  | string
  /-- Borrowed text, `str`. -/
  | str
  | slice (element : Ty)
  | vec (element : Ty)
  | hashMap (key value : Ty)
  | option (inner : Ty)
  /-- The presence wrapper of an optional scalar field. -/
  | singularField (inner : Ty)
  /-- The presence wrapper whose payload is on the heap. -/
  | singularPtrField (inner : Ty)
  /-- The container of a repeated field, distinct from `vec`. -/
  | repeatedField (element : Ty)
  | box (inner : Ty)
  | ref (inner : Ty)
  | message (name : QualName)
  /-- A schema enum with its declared default variant. -/
  | enum (name : QualName) (default : String)
  /-- A schema enum widened to hold the values it does not declare. -/
  | openEnum (name : QualName) (default : String)
  | oneof (name : QualName)
  /-- A shared byte buffer. -/
  | bytes
  /-- A shared text buffer. -/
  | chars
  /-- A legacy group field, which has no values. -/
  | group
  deriving DecidableEq, Repr

namespace Ty

def u8 : Ty := .int false .w8

def i32 : Ty := .int true .w32

/-! ## Classification -/

def isPrimitive : Ty → Bool
  | .int _ _ | .float _ | .bool => true
  | _ => false

def isU8 : Ty → Bool
  | .int false .w8 => true
  | _ => false

/-- Values that are copied bit by bit. -/
def isCopy : Ty → Bool
  | .int _ _ | .float _ | .bool | .enum _ _ | .openEnum _ _ => true
  | _ => false

def isStr : Ty → Bool
  | .str => true
  | _ => false

def isString : Ty → Bool
  | .string => true
  | _ => false

def isMessage : Ty → Bool
  | .message _ => true
  | _ => false

def isEnum : Ty → Bool
  | .enum _ _ => true
  | _ => false

def isOpenEnum : Ty → Bool
  | .openEnum _ _ => true
  | _ => false

/-! ## Parts -/

def sliceElement? : Ty → Option Ty
  | .slice element => some element
  | _ => none

def refTarget? : Ty → Option Ty
  | .ref inner => some inner
  | _ => none

def boxTarget? : Ty → Option Ty
  | .box inner => some inner
  | _ => none

def isByteSlice (t : Ty) : Bool := t.sliceElement?.any isU8

@[simp] theorem isU8_iff {t : Ty} : t.isU8 = true ↔ t = u8 := by
  cases t with
  | int signed width => cases signed <;> cases width <;> simp [isU8, u8]
  | _ => simp [isU8, u8]

end Ty

end RustSchema
