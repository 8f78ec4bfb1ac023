/-
  RustSchema.Yaml.Token — the tokens of a YAML text.

  Indentation shows as tokens of its own: a block sequence or mapping has a start where its
  indentation begins and an end where it stops.
-/

import RustSchema.Yaml.Fault

namespace RustSchema.Yaml

/-- What a line before a document says of it. -/
inductive Directive where
  /-- The version of YAML, of which the first number counts. -/
  | version (major : Nat)
  /-- What a handle of tags stands for. -/
  | handle (name lead : String)
  | other
  deriving DecidableEq, Repr

inductive Token where
  /-- `%NAME`, with the rest of its line. -/
  | directive (d : Directive)
  /-- `---` -/
  | documentStart
  /-- `...` -/
  | documentEnd
  | blockSequenceStart
  | blockMappingStart
  | blockEnd
  | flowSequenceStart
  | flowSequenceEnd
  | flowMappingStart
  | flowMappingEnd
  /-- `- ` -/
  | blockEntry
  /-- `,` -/
  | flowEntry
  /-- `? `, or the place before a key that needs no mark. -/
  | key
  /-- `: ` -/
  | value
  /-- `*name` -/
  | alias (name : String)
  /-- `&name` -/
  | anchor (name : String)
  /-- A tag's handle, if it has one, and the rest of its name. -/
  | tag (handle : Option String) (suffix : String)
  /-- Text; where it is written without quotes, `plain`, it may stand for a value of another
      sort. -/
  | scalar (text : String) (plain : Bool)
  deriving DecidableEq, Repr

/-- The tokens of a text up to its first fault, or all of them. -/
structure Tokens where
  list : List Token
  fault : Option Fault
  deriving DecidableEq, Repr

end RustSchema.Yaml
