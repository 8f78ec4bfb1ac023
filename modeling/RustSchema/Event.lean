/-
  RustSchema.Event — what is worth a line in the log, and how the line reads.
-/

import RustSchema.Conversion.Rule
import RustSchema.Options
import RustSchema.Ty.Text

namespace RustSchema

/-- By which rule a declared type got its name. -/
inductive Route where
  | sameFile
  | wellKnown
  | descriptor
  | otherFile (file : String)
  deriving DecidableEq, Repr

def Route.phrase : Route → String
  | .sameFile => "same file"
  | .wellKnown => "well-known type"
  | .descriptor => "descriptor type"
  | .otherFile file => "declared in " ++ file

inductive Event where
  /-- A rule converted `source`, the type left after the references removed so far. -/
  | converted (source target : Ty) (rule : Rule)
  | resolved (typeName : String) (route : Route) (name : QualName)
  | optionsRead (label : String) (options : Options)
  deriving DecidableEq, Repr

namespace Event

/-- The part of the library that an event comes from. -/
def channel : Event → String
  | .converted _ _ _ => "conversion"
  | .resolved _ _ _ => "naming"
  | .optionsRead _ _ => "config"

def text : Event → String
  | .converted source target rule =>
    source.text ++ " -> " ++ target.text ++ ": rule '" ++ rule.label ++ "'"
  | .resolved typeName route name =>
    typeName ++ ": " ++ route.phrase ++ ", resolved to " ++ name.text
  | .optionsRead label options =>
    "loaded codegen config from " ++ label ++ ": " ++ options.text

def line (event : Event) : String := event.channel ++ ": " ++ event.text

end Event

end RustSchema
