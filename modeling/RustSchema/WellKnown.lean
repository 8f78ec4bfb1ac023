/-
  RustSchema.WellKnown — types that the runtime library ships instead of having them
  generated: the well-known types of package `google.protobuf`, and the types of
  `descriptor.proto`, the schema of schemas.

  Only top-level types are well known: the name has to be the package and one identifier.
-/

import RustSchema.Ident
import RustSchema.ModPath
import RustSchema.Schema

namespace RustSchema.WellKnown

def package : String := "google.protobuf"

def typesModule : ModPath := ⟨true, ["protobuf", "well_known_types"]⟩

def descriptorModule : ModPath := ⟨true, ["protobuf", "descriptor"]⟩

def descriptorFile : String := "descriptor.proto"

def typeNames : List String :=
  ["Any", "Api", "BoolValue", "BytesValue", "DoubleValue", "Duration", "Empty", "Enum",
   "EnumValue", "Field", "FieldMask", "FloatValue", "Int32Value", "Int64Value", "ListValue",
   "Method", "Mixin", "NullValue", "Option", "SourceContext", "StringValue", "Struct",
   "Syntax", "Timestamp", "Type", "UInt32Value", "UInt64Value", "Value"]

/-- Cuts a schema name at its last dot. -/
def splitLast (name : String) : Option (String × String) :=
  let cs := name.toList
  let simple := (cs.reverse.takeWhile (· != '.')).reverse
  if simple.length < cs.length then
    some (String.ofList (cs.take (cs.length - simple.length - 1)), String.ofList simple)
  else none

/-- The identifier of a well-known type, given its absolute schema name. -/
def simpleName? (name : String) : Option String :=
  match splitLast name with
  | some (before, simple) =>
    if before = "." ++ package ∧ simple ∈ typeNames then some simple else none
  | none => none

def rustName (simple : String) : QualName := typesModule.toName simple

/-- Whether the file is the schema of schemas, wherever it lies. -/
def isDescriptorFile (file : FileDecl) : Bool :=
  file.package == package && Ident.lastComponent file.name == descriptorFile

end RustSchema.WellKnown
