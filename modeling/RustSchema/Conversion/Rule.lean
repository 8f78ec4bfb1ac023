/-
  RustSchema.Conversion.Rule — the fifteen ways to turn a value of one type into another.

  Each rule looks at the source and the target only; where it applies it gives the
  expression that converts. The order of `Rule.all` is the order in which they are tried.
-/

import RustSchema.Expr
import RustSchema.Ty

namespace RustSchema

inductive Rule where
  | identity
  | refBoxToRef
  | deref
  | box
  | unbox
  | borrowStr
  | stringRefAndStrRef
  | strRefToChars
  | sliceRefToVec
  | sliceRefToBytes
  | borrowAsSlice
  | vecRefToSliceRef
  | enumToI32
  | openEnumToEnum
  | enumToOpenEnum
  deriving DecidableEq, Repr

namespace Rule

def all : List Rule :=
  [.identity, .refBoxToRef, .deref, .box, .unbox, .borrowStr, .stringRefAndStrRef,
   .strRefToChars, .sliceRefToVec, .sliceRefToBytes, .borrowAsSlice, .vecRefToSliceRef,
   .enumToI32, .openEnumToEnum, .enumToOpenEnum]

def label : Rule → String
  | .identity => "identity"
  | .refBoxToRef => "ref-box-to-ref"
  | .deref => "deref"
  | .box => "box"
  | .unbox => "unbox"
  | .borrowStr => "borrow-str"
  | .stringRefAndStrRef => "string-ref-and-str-ref"
  | .strRefToChars => "str-ref-to-chars"
  | .sliceRefToVec => "slice-ref-to-vec"
  | .sliceRefToBytes => "slice-ref-to-bytes"
  | .borrowAsSlice => "borrow-as-slice"
  | .vecRefToSliceRef => "vec-ref-to-slice-ref"
  | .enumToI32 => "enum-to-i32"
  | .openEnumToEnum => "enum-or-unknown-to-enum"
  | .enumToOpenEnum => "enum-to-enum-or-unknown"

theorem mem_all (rule : Rule) : rule ∈ all := by cases rule <;> decide

/-! ## The rules -/

open RustSchema.Expr

def identity? (source target : Ty) : Option Expr :=
  if source = target then some operand else none

/-- `&Box<X>` to `&X`. -/
def refBoxToRef? (source target : Ty) : Option Expr :=
  match source, target with
  | .ref (.box x), .ref y => if x = y then some (.borrow (.deref (.deref operand))) else none
  | _, _ => none

/-- `&X` to `X`. -/
def deref? (source target : Ty) : Option Expr :=
  match source with
  | .ref x => if x = target then some (.deref operand) else none
  | _ => none

/-- `X` to `Box<X>`. -/
def box? (source target : Ty) : Option Expr :=
  match target with
  | .box x => if x = source then some (.box operand) else none
  | _ => none

/-- `Box<X>` to `X`. -/
def unbox? (source target : Ty) : Option Expr :=
  match source with
  | .box x => if x = target then some (.deref operand) else none
  | _ => none

/-- Owned or shared text to `&str`. -/
def borrowStr? (source target : Ty) : Option Expr :=
  match source, target with
  | .string, .ref .str => some (.borrow operand)
  | .chars, .ref .str => some (.borrow operand)
  | _, _ => none

/-- `&String` to `&str`, and `&str` to `String`. -/
def stringRefAndStrRef? (source target : Ty) : Option Expr :=
  match source, target with
  | .ref .string, .ref .str => some (.borrow operand)
  | .ref .str, .string => some (.toOwned operand)
  | _, _ => none

def strRefToChars? (source target : Ty) : Option Expr :=
  match source, target with
  | .ref .str, .chars => some (.toChars (.toOwned operand))
  | _, _ => none

/-- `&[X]` to `Vec<X>`. -/
def sliceRefToVec? (source target : Ty) : Option Expr :=
  match source, target with
  | .ref (.slice x), .vec y => if x = y then some (.toVec operand) else none
  | _, _ => none

/-- `&[u8]` to a shared byte buffer. -/
def sliceRefToBytes? (source target : Ty) : Option Expr :=
  match source, target with
  | .ref (.slice x), .bytes => if x = Ty.u8 then some (.toBytes (.toVec operand)) else none
  | _, _ => none

/-- `Vec<X>` to `&[X]`, and a shared byte buffer to `&[u8]`. -/
def borrowAsSlice? (source target : Ty) : Option Expr :=
  match source, target with
  | .vec x, .ref (.slice y) => if x = y then some (.borrow operand) else none
  | .bytes, .ref (.slice y) => if y = Ty.u8 then some (.borrow operand) else none
  | _, _ => none

/-- `&Vec<X>` to `&[X]`. -/
def vecRefToSliceRef? (source target : Ty) : Option Expr :=
  match source, target with
  | .ref (.vec x), .ref (.slice y) => if x = y then some (.borrow operand) else none
  | _, _ => none

/-- Either sort of enum, or a reference to one, to its number. -/
def enumToI32? (source target : Ty) : Option Expr :=
  if target = Ty.i32 then
    match source with
    | .enum _ _ => some (.enumNumber (.borrow operand))
    | .openEnum _ _ => some (.openEnumNumber (.borrow operand))
    | .ref (.enum _ _) => some (.enumNumber operand)
    | .ref (.openEnum _ _) => some (.openEnumNumber operand)
    | _ => none
  else none

/-- Undeclared numbers become the default variant of the enum, which need not be the
    default value of the field. -/
def openEnumToEnum? (source target : Ty) : Option Expr :=
  match source, target with
  | .openEnum n _, .enum m _ => if n = m then some (.knownOrDefault (.borrow operand)) else none
  | _, _ => none

def enumToOpenEnum? (source target : Ty) : Option Expr :=
  match source, target with
  | .enum n _, .openEnum m _ => if n = m then some (.toOpenEnum operand) else none
  | _, _ => none

/-- The expression by which the rule turns an operand of type `source` into `target`. -/
def expr? : Rule → Ty → Ty → Option Expr
  | .identity => identity?
  | .refBoxToRef => refBoxToRef?
  | .deref => deref?
  | .box => box?
  | .unbox => unbox?
  | .borrowStr => borrowStr?
  | .stringRefAndStrRef => stringRefAndStrRef?
  | .strRefToChars => strRefToChars?
  | .sliceRefToVec => sliceRefToVec?
  | .sliceRefToBytes => sliceRefToBytes?
  | .borrowAsSlice => borrowAsSlice?
  | .vecRefToSliceRef => vecRefToSliceRef?
  | .enumToI32 => enumToI32?
  | .openEnumToEnum => openEnumToEnum?
  | .enumToOpenEnum => enumToOpenEnum?

/-- The text that the rule gives when it is applied by itself. -/
def textFor? (rule : Rule) (source target : Ty) (value : String) : Option String :=
  (rule.expr? source target).map (·.render value)

end Rule

end RustSchema
