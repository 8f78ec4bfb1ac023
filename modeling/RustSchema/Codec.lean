/-
  RustSchema.Codec — the types of the runtime library that read and write field values.
-/

import RustSchema.Error
import RustSchema.Ident
import RustSchema.Options

namespace RustSchema

inductive Codec where
  | primitive (kind : FieldKind) (buffer : Buffer)
  | message (name : QualName)
  | enum (name : QualName)
  | openEnum (name : QualName)
  deriving DecidableEq, Repr

namespace Codec

/-- A type of the runtime's codec module. -/
def runtimeType (suffix : String) : String := "::protobuf::types::ProtobufType" ++ suffix

/-- The name of the codec's type. Only primitive kinds have a primitive codec, and only
    bytes and text can be shared. -/
def text : Codec → Except Error String
  | .primitive kind buffer =>
    if !kind.isPrimitive then .error (.notPrimitive kind)
    else
      match buffer, kind with
      | .owned, _ => .ok (runtimeType (Ident.capitalize kind.keyword))
      | .shared, .bytes => .ok (runtimeType "CarllercheBytes")
      | .shared, .string => .ok (runtimeType "CarllercheChars")
      | .shared, _ => .error (.noSharedForm kind)
  | .message name => .ok (runtimeType ("Message<" ++ name.text ++ ">"))
  | .enum name => .ok (runtimeType ("Enum<" ++ name.text ++ ">"))
  | .openEnum name => .ok (runtimeType ("EnumOrUnknown<" ++ name.text ++ ">"))

end Codec

end RustSchema
