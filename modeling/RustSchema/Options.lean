/-
  RustSchema.Options — the options that choose how fields are represented.
-/

import RustSchema.Schema

namespace RustSchema

/-- How the bytes or text of a field are held: owned by the message, or in a buffer that
    messages share. -/
inductive Buffer where
  | owned
  | shared
  deriving DecidableEq, Repr

namespace Buffer

def all : List Buffer := [.owned, .shared]

def label : Buffer → String
  | .owned => "default"
  | .shared => "carllerche"

def ofLabel? (label : String) : Option Buffer := all.find? (·.label = label)

theorem ofLabel?_label (buffer : Buffer) : ofLabel? buffer.label = some buffer := by
  cases buffer <;> decide

end Buffer

structure Options where
  /-- Hold `bytes` fields in shared buffers. -/
  sharedBytes : Bool := false
  /-- Hold `string` fields in shared buffers. -/
  sharedText : Bool := false
  /-- Hold enum fields so that undeclared numbers are kept. -/
  openEnums : Bool := false
  deriving DecidableEq, Repr

namespace Options

/-- The buffer of a field of the given kind. -/
def bufferFor (options : Options) : FieldKind → Buffer
  | .bytes => if options.sharedBytes then .shared else .owned
  | .string => if options.sharedText then .shared else .owned
  | _ => .owned

def truth (b : Bool) : String := if b then "True" else "False"

/-- The options as the log shows them. -/
def text (options : Options) : String :=
  "CodegenConfig(carllerche_bytes_for_bytes=" ++ truth options.sharedBytes
    ++ ", carllerche_bytes_for_string=" ++ truth options.sharedText
    ++ ", enum_or_unknown=" ++ truth options.openEnums ++ ")"

end Options

end RustSchema
