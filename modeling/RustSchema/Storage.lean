/-
  RustSchema.Storage — the type in which a field is stored, and the codec of its values.

  A primitive kind has a fixed type; a message or enum kind is named by its declaration, as
  seen from the site. The wrapper, which says whether the field is optional or repeated, is
  chosen by whoever asks and goes around the type last.
-/

import RustSchema.Codec
import RustSchema.Naming

namespace RustSchema

/-! ## Primitive kinds -/

/-- The type of values held by their message. -/
def FieldKind.ownedTy? : FieldKind → Option Ty
  | .double => some (.float .w64)
  | .float => some (.float .w32)
  | .int32 | .sint32 | .sfixed32 => some (.int true .w32)
  | .int64 | .sint64 | .sfixed64 => some (.int true .w64)
  | .uint32 | .fixed32 => some (.int false .w32)
  | .uint64 | .fixed64 => some (.int false .w64)
  | .bool => some .bool
  | .string => some .string
  | .bytes => some (.vec Ty.u8)
  | .group | .message | .enum => none

/-- A shared buffer replaces the type of bytes and text and of nothing else. -/
def FieldKind.ty (kind : FieldKind) (buffer : Buffer) : Except Error Ty :=
  match buffer, kind with
  | .shared, .bytes => .ok .bytes
  | .shared, .string => .ok .chars
  | _, _ =>
    match kind.ownedTy? with
    | some t => .ok t
    | none => .error (.notPrimitive kind)

/-! ## Wrappers -/

inductive Wrapper where
  | plain
  | option
  | singularField
  | singularPtrField
  | vec
  | repeatedField
  deriving DecidableEq, Repr

namespace Wrapper

def all : List Wrapper :=
  [.plain, .option, .singularField, .singularPtrField, .vec, .repeatedField]

def label : Wrapper → String
  | .plain => "plain"
  | .option => "option"
  | .singularField => "singular_field"
  | .singularPtrField => "singular_ptr_field"
  | .vec => "vec"
  | .repeatedField => "repeated_field"

def ofLabel? (label : String) : Option Wrapper := all.find? (·.label = label)

theorem ofLabel?_label (wrapper : Wrapper) : ofLabel? wrapper.label = some wrapper := by
  cases wrapper <;> decide

def wrap (t : Ty) : Wrapper → Ty
  | .plain => t
  | .option => .option t
  | .singularField => .singularField t
  | .singularPtrField => .singularPtrField t
  | .vec => .vec t
  | .repeatedField => .repeatedField t

end Wrapper

/-! ## Fields -/

namespace Field

/-- The sort of declaration that a field of a named kind refers to. -/
def wantedSort (field : Field) : DeclSort :=
  if field.kind = .enum then .enum else .message

/-- The declaration that a message or enum field names. -/
def declaration (field : Field) (scope : Scope) : Except Error Declared := do
  let typeName := field.typeName.getD ""
  if typeName = "" then throw (.noTypeName field.name field.kind)
  let declared ← scope.find typeName
  if declared.sort ≠ field.wantedSort then
    throw (.wrongSort field.name typeName field.wantedSort)
  return declared

end Field

/-- The variant an enum starts from: the first one it declares. Only enums are asked for it, as
    `Field.declaration` refuses anything else where an enum is wanted; a message is answered as
    an enum without values is. -/
def Declared.defaultVariant (d : Declared) : Except Error String :=
  match d.definition with
  | .enum ⟨_, first :: _⟩ => .ok first
  | _ => .error (.noValues d.absoluteName)

namespace Field

/-- The type of one value of the field, before it is wrapped. -/
def elementTy (field : Field) (site : Site) (scope : Scope) (options : Options) :
    Traced Error Ty := do
  if field.kind.isPrimitive then field.kind.ty (options.bufferFor field.kind)
  else if field.kind = .group then return .group
  else
    let declared ← field.declaration scope
    let name ← declared.nameAt site
    if field.kind = .message then return .message name
    else
      let default ← declared.defaultVariant
      return if options.openEnums then .openEnum name default else .enum name default

/-- The type in which the field is stored. -/
def storedTy (field : Field) (site : Site) (scope : Scope) (wrapper : Wrapper)
    (options : Options) : Traced Error Ty := do
  return wrapper.wrap (← field.elementTy site scope options)

/-- The codec of the field's values; group fields have none. -/
def codec (field : Field) (site : Site) (scope : Scope) (options : Options) :
    Traced Error Codec := do
  if field.kind.isPrimitive then return .primitive field.kind (options.bufferFor field.kind)
  else if field.kind = .group then Traced.ofExcept (.error (.notPrimitive field.kind))
  else
    let declared ← field.declaration scope
    let name ← declared.nameAt site
    if field.kind = .message then return .message name
    else return if options.openEnums then .openEnum name else .enum name

end Field

end RustSchema
