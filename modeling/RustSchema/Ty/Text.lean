/-
  RustSchema.Ty.Text — how a type is spelled in generated code.
-/

import RustSchema.Ty

namespace RustSchema.Ty

/-- A generic container with its arguments: `::std::vec::Vec<u8>`. -/
def applied (container arguments : String) : String := container ++ "<" ++ arguments ++ ">"

def text : Ty → String
  | .int signed width => (if signed then "i" else "u") ++ toString width.bits
  | .float width => "f" ++ toString width.bits
  | .bool => "bool"
  | .string => "::std::string::String"
  | .str => "str"
  | .slice element => "[" ++ element.text ++ "]"
  | .vec element => applied "::std::vec::Vec" element.text
  | .hashMap key value =>
    applied "::std::collections::HashMap" (key.text ++ ", " ++ value.text)
  | .option inner => applied "::std::option::Option" inner.text
  | .singularField inner => applied "::protobuf::SingularField" inner.text
  | .singularPtrField inner => applied "::protobuf::SingularPtrField" inner.text
  | .repeatedField element => applied "::protobuf::RepeatedField" element.text
  | .box inner => applied "::std::boxed::Box" inner.text
  | .ref inner => "&" ++ inner.text
  | .message name | .enum name _ | .oneof name => name.text
  | .openEnum name _ => applied "::protobuf::ProtobufEnumOrUnknown" name.text
  | .bytes => "::bytes::Bytes"
  | .chars => "::protobuf::Chars"
  | .group => "<group>"

/-- A missing type is shown as `<none>`. -/
def textOrNone (t : Option Ty) : String := t.elim "<none>" text

end RustSchema.Ty
