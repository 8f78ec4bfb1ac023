/-
  RustSchema.Schema — the declarations of a parsed schema: files, messages, enums, fields.

  They are read-only: whoever loads a schema builds them, and everything here asks them.
-/

namespace RustSchema

/-! ## Field kinds -/

/-- The wire kind of a field. -/
inductive FieldKind where
  | double
  | float
  | int64
  | uint64
  | int32
  | fixed64
  | fixed32
  | bool
  | string
  | group
  | message
  | bytes
  | uint32
  | enum
  | sfixed32
  | sfixed64
  | sint32
  | sint64
  deriving DecidableEq, Repr

namespace FieldKind

/-- In the order of their numbers. -/
def all : List FieldKind :=
  [.double, .float, .int64, .uint64, .int32, .fixed64, .fixed32, .bool, .string, .group,
   .message, .bytes, .uint32, .enum, .sfixed32, .sfixed64, .sint32, .sint64]

def number : FieldKind → Nat
  | .double => 1
  | .float => 2
  | .int64 => 3
  | .uint64 => 4
  | .int32 => 5
  | .fixed64 => 6
  | .fixed32 => 7
  | .bool => 8
  | .string => 9
  | .group => 10
  | .message => 11
  | .bytes => 12
  | .uint32 => 13
  | .enum => 14
  | .sfixed32 => 15
  | .sfixed64 => 16
  | .sint32 => 17
  | .sint64 => 18

def ofNumber? (n : Int) : Option FieldKind := all.find? fun kind => (kind.number : Int) = n

/-- The word for the kind in a schema. -/
def keyword : FieldKind → String
  | .double => "double"
  | .float => "float"
  | .int64 => "int64"
  | .uint64 => "uint64"
  | .int32 => "int32"
  | .fixed64 => "fixed64"
  | .fixed32 => "fixed32"
  | .bool => "bool"
  | .string => "string"
  | .group => "group"
  | .message => "message"
  | .bytes => "bytes"
  | .uint32 => "uint32"
  | .enum => "enum"
  | .sfixed32 => "sfixed32"
  | .sfixed64 => "sfixed64"
  | .sint32 => "sint32"
  | .sint64 => "sint64"

/-- The name of the kind in the schema of schemas. -/
def name : FieldKind → String
  | .double => "TYPE_DOUBLE"
  | .float => "TYPE_FLOAT"
  | .int64 => "TYPE_INT64"
  | .uint64 => "TYPE_UINT64"
  | .int32 => "TYPE_INT32"
  | .fixed64 => "TYPE_FIXED64"
  | .fixed32 => "TYPE_FIXED32"
  | .bool => "TYPE_BOOL"
  | .string => "TYPE_STRING"
  | .group => "TYPE_GROUP"
  | .message => "TYPE_MESSAGE"
  | .bytes => "TYPE_BYTES"
  | .uint32 => "TYPE_UINT32"
  | .enum => "TYPE_ENUM"
  | .sfixed32 => "TYPE_SFIXED32"
  | .sfixed64 => "TYPE_SFIXED64"
  | .sint32 => "TYPE_SINT32"
  | .sint64 => "TYPE_SINT64"

/-- Messages, enums and groups are named types; every other kind has a fixed type. -/
def isPrimitive : FieldKind → Bool
  | .group | .message | .enum => false
  | _ => true

theorem mem_all (kind : FieldKind) : kind ∈ all := by cases kind <;> decide

theorem ofNumber?_number (kind : FieldKind) : ofNumber? kind.number = some kind := by
  cases kind <;> rfl

end FieldKind

/-! ## Declarations -/

/-- A message field. `typeName` is the absolute schema name (`.pkg.Msg`) of the type of a
    message, enum or group field. -/
structure Field where
  name : String
  number : Int
  kind : FieldKind
  typeName : Option String := none
  deriving DecidableEq, Repr

/-- The first declared value is the default. -/
structure EnumDecl where
  name : String
  values : List String := []
  deriving DecidableEq, Repr

structure MessageDecl where
  name : String
  fields : List Field := []
  nested : List MessageDecl := []
  enums : List EnumDecl := []
  deriving Repr

structure FileDecl where
  name : String
  package : String := ""
  messages : List MessageDecl := []
  enums : List EnumDecl := []
  deriving Repr

end RustSchema
