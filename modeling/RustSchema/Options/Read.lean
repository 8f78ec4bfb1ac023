/-
  RustSchema.Options.Read — options from a YAML document.

  Nothing means the defaults; anything but a mapping is refused. A mapping may hold the
  three option names and no other key, and every value has to be a truth value. Unknown
  keys are reported before wrong values, all of them in the order of their texts, unless one
  is too long to be shown; of wrong values the first is reported, in the order of the
  options. So the order of the entries changes nothing.
-/

import RustSchema.Text.Quoted
import RustSchema.Traced
import RustSchema.Yaml.Value

namespace RustSchema

/-- Where a file does not lead to text. -/
inductive FileFault where
  | isDirectory (path : String)
  | notADirectory (path : String)
  | nameTooLong (path : String)
  deriving DecidableEq, Repr

def FileFault.text : FileFault → String
  | .isDirectory path => "[Errno 21] Is a directory: " ++ Text.quoted path
  | .notADirectory path => "[Errno 20] Not a directory: " ++ Text.quoted path
  | .nameTooLong path => "[Errno 36] File name too long: " ++ Text.quoted path

inductive OptionsError where
  | fileNotFound (path : String)
  | unreadable (fault : FileFault)
  | nulInPath
  | notUtf8
  | invalidYaml (label : String)
  /-- Something that is spelled like a value and has none. -/
  | unvalued (what : Yaml.Unvalued)
  | notAMapping (label : String)
  /-- An unknown key is a number too long to be shown. -/
  | longKey
  | unknownKeys (label : String) (keys : List String)
  | notATruthValue (label key : String)
  deriving DecidableEq, Repr

/-- Text that is not UTF-8 and a default value without end have no message of their own. -/
def OptionsError.message? : OptionsError → Option String
  | .fileNotFound path => some ("Codegen config file not found: " ++ path)
  | .unreadable fault => some ("Cannot read codegen config file: " ++ fault.text)
  | .nulInPath => some "embedded null byte"
  | .notUtf8 => none
  | .invalidYaml label => some ("Invalid YAML in " ++ label)
  | .unvalued what => what.message?
  | .notAMapping label => some (label ++ ": codegen config must be a YAML mapping")
  | .longKey => some (Yaml.tooLongText "")
  | .unknownKeys label keys =>
    some (label ++ ": unknown option(s): " ++ ", ".intercalate keys)
  | .notATruthValue label key => some (label ++ ": '" ++ key ++ "' must be a boolean")

namespace Options

open Yaml

def bytesKey : String := "carllerche-bytes-for-bytes"

def textKey : String := "carllerche-bytes-for-string"

def enumsKey : String := "enum-or-unknown"

def keys : List String := [bytesKey, textKey, enumsKey]

def isKnown : Scalar → Bool
  | .text key => key ∈ keys
  | _ => false

/-- The keys that are no option. -/
def unknown (entries : List (Scalar × Value)) : List Scalar :=
  (entries.map (·.1)).filter (!isKnown ·)

/-- The texts of the keys that are no option, in their order. -/
def unknownKeys (entries : List (Scalar × Value)) : List String :=
  ((unknown entries).map (·.keyText)).mergeSort (fun a b => decide (a ≤ b))

/-- The value of an option, false if it is not given. -/
def truthValue (label : String) (entries : List (Scalar × Value)) (key : String) :
    Except OptionsError Bool :=
  match entries.find? fun entry => entry.1 = .text key with
  | none => .ok false
  | some (_, .scalar (.bool b)) => .ok b
  | some _ => .error (.notATruthValue label key)

def ofEntries (label : String) (entries : List (Scalar × Value)) :
    Except OptionsError Options := do
  if (unknown entries).any (·.isLong) then throw .longKey
  if unknown entries ≠ [] then throw (.unknownKeys label (unknownKeys entries))
  return ⟨← truthValue label entries bytesKey, ← truthValue label entries textKey,
    ← truthValue label entries enumsKey⟩

def ofValue (label : String) : Value → Except OptionsError Options
  | .scalar .null => ofEntries label []
  | .mapping entries => ofEntries label entries
  | _ => .error (.notAMapping label)

def errorOf (label : String) : Fault → OptionsError
  | .malformed => .invalidYaml label
  | .unvalued what => .unvalued what

/-- The options that a text gives; `label` names the text in messages. -/
def ofText (label text : String) : Traced OptionsError Options := do
  let v ← Traced.ofExcept <| (Value.ofText text).mapError (errorOf label)
  let options ← ofValue label v
  Traced.note (.optionsRead label options)
  return options

end Options

end RustSchema
