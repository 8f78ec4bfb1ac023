/-
  RustSchema.Error — what can go wrong in a question about types, names and fields, and
  how each failure is worded.

  None of them is about a schema someone wrote: a schema that is loaded is well formed.
  Each says that a question was asked of something outside its domain.
-/

import RustSchema.Schema
import RustSchema.Text.Quoted
import RustSchema.Ty.Text

namespace RustSchema

/-- The questions about values of one type. -/
inductive Query where
  | default
  | clear
  | view
  | payload
  | iteration
  deriving DecidableEq, Repr

def Query.label : Query → String
  | .default => "default value"
  | .clear => "clear"
  | .view => "ref type"
  | .payload => "elem type"
  | .iteration => "iter elem type"

/-- A declared type is a message or an enum. -/
inductive DeclSort where
  | message
  | enum
  deriving DecidableEq, Repr

def DeclSort.phrase : DeclSort → String
  | .message => "a message"
  | .enum => "an enum"

inductive Error where
  | unanswerable (query : Query) (ty : Ty)
  | noConversion (source target : Ty)
  | notPrimitive (kind : FieldKind)
  | undeclared (typeName : String)
  | absoluteTail (tail onto : ModPath)
  | absoluteSource (source : ModPath)
  | notAName (text : String)
  | emptyTypeName
  | noTypeName (field : String) (kind : FieldKind)
  | wrongSort (field typeName : String) (wanted : DeclSort)
  | noValues (enumName : String)
  | noSharedForm (kind : FieldKind)
  | unknownKind (number : Int)
  | unknownWrapper (label : Option String)
  | unknownBuffer (label : Option String)
  deriving DecidableEq, Repr

namespace Error

/-- A label that names no member of a closed set; a missing label is shown as `None`. -/
def notAMember (label : Option String) (set : String) : String :=
  label.elim "None" Text.quoted ++ " is not a valid " ++ set

def message : Error → String
  | .unanswerable query ty => "cannot compute " ++ query.label ++ " for type: " ++ ty.text
  | .noConversion source target =>
    "failed to convert " ++ source.text ++ " into " ++ target.text
  | .notPrimitive kind => "there is no rust name for " ++ kind.name
  | .undeclared typeName => "message or enum not found: " ++ typeName
  | .absoluteTail tail onto =>
    "cannot append absolute path " ++ tail.text ++ " to " ++ onto.text
  | .absoluteSource source => "source path must be relative: " ++ source.text
  | .notAName text => "not a rust path: " ++ Text.quoted text
  | .emptyTypeName => "type name must not be empty"
  | .noTypeName field kind =>
    "field '" ++ field ++ "' of kind " ++ kind.name ++ " has no type name"
  | .wrongSort field typeName wanted =>
    "field '" ++ field ++ "': " ++ typeName ++ " does not name " ++ wanted.phrase
  | .noValues enumName => "enum " ++ enumName ++ " declares no values"
  | .noSharedForm kind =>
    "carllerche variant is only defined for bytes and string, not " ++ kind.name
  | .unknownKind number => toString number ++ " is not a valid FieldKind"
  | .unknownWrapper label => notAMember label "FieldWrapper"
  | .unknownBuffer label => notAMember label "PrimitiveTypeVariant"

end Error

end RustSchema
