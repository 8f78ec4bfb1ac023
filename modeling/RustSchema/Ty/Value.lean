/-
  RustSchema.Ty.Value — questions about values of one type: its default, how a variable of
  it is cleared, the type through which it is viewed, its payload, and what a loop over it
  yields.

  Each is answered for a fixed set of types, and refused by name for every other.
-/

import RustSchema.Error

namespace RustSchema.Ty

/-- An expression for the default value. The default of an enum is its declared default
    variant, which need not be the default value of a field of that type. -/
def defaultValue : Ty → Except Error String
  | .ref .str => .ok "\"\""
  | .ref (.slice _) => .ok "&[]"
  | .ref (.message name) => .ok ("<" ++ name.text ++ " as ::protobuf::Message>::default_instance()")
  | .int _ _ => .ok "0"
  | .float _ => .ok "0."
  | .bool => .ok "false"
  | .vec _ => .ok "::std::vec::Vec::new()"
  | .hashMap _ _ => .ok "::std::collections::HashMap::new()"
  | .string => .ok "::std::string::String::new()"
  | .bytes => .ok "::bytes::Bytes::new()"
  | .chars => .ok "::protobuf::Chars::new()"
  | .option _ => .ok "::std::option::Option::None"
  | .singularField _ => .ok "::protobuf::SingularField::none()"
  | .singularPtrField _ => .ok "::protobuf::SingularPtrField::none()"
  | .repeatedField _ => .ok "::protobuf::RepeatedField::new()"
  | .message name => .ok (name.text ++ "::new()")
  | .enum name default => .ok (name.text ++ "::" ++ default)
  | .openEnum name default =>
    .ok ("::protobuf::ProtobufEnumOrUnknown::new(" ++ name.text ++ "::" ++ default ++ ")")
  | t => .error (.unanswerable .default t)

/-- A statement that resets the variable `v` to its default. -/
def clear (v : String) (t : Ty) : Except Error String :=
  match t with
  | .option _ => .ok (v ++ " = ::std::option::Option::None")
  | .vec _ | .bytes | .string | .repeatedField _ | .singularField _ | .singularPtrField _
  | .hashMap _ _ => .ok (v ++ ".clear()")
  | .chars => .ok ("::protobuf::Clear::clear(&mut " ++ v ++ ")")
  | .bool | .float _ | .int _ _ | .enum _ _ | .openEnum _ _ =>
    t.defaultValue.map (v ++ " = " ++ ·)
  | _ => .error (.unanswerable .clear t)

/-- The reference type through which data is viewed: text as `&str`, a sequence as a slice,
    a message or a box as itself. -/
def view : Ty → Except Error Ty
  | .string | .chars => .ok (.ref .str)
  | .vec element | .repeatedField element => .ok (.ref (.slice element))
  | .bytes => .ok (.ref (.slice u8))
  | .message name => .ok (.ref (.message name))
  | .box inner => .ok (.ref (.box inner))
  | t => .error (.unanswerable .view t)

/-- The type that an optional wrapper holds. -/
def payload : Ty → Except Error Ty
  | .option inner | .singularField inner | .singularPtrField inner => .ok inner
  | t => .error (.unanswerable .payload t)

/-- The type of `x` in `for x in xs`. -/
def iteration : Ty → Except Error Ty
  | .vec element | .repeatedField element => .ok (.ref element)
  | .option inner | .singularField inner | .singularPtrField inner => .ok (.ref inner)
  | t => .error (.unanswerable .iteration t)

end RustSchema.Ty
