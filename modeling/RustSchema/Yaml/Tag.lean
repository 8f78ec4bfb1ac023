/-
  RustSchema.Yaml.Tag — what a node is said to be.

  A tag is given by name, or follows from how the node is spelled. Only those are told apart
  here of which a value can be made, and the two that mean something as a key.
-/

namespace RustSchema.Yaml

inductive Tag where
  | null
  | bool
  | int
  | float
  | binary
  | time
  | text
  | list
  | mapping
  | set
  /-- A list of mappings of one entry each, as pairs. -/
  | pairs
  /-- The key of other mappings to be merged into this one. -/
  | merge
  /-- The key of a default value. -/
  | default
  /-- Nothing is made of all others. -/
  | other
  deriving DecidableEq, Repr

namespace Tag

/-- What the names of YAML's own tags begin with. -/
def root : String := "tag:yaml.org,2002:"

def names : List (String × Tag) :=
  [("null", .null), ("bool", .bool), ("int", .int), ("float", .float), ("binary", .binary),
   ("timestamp", .time), ("str", .text), ("seq", .list), ("map", .mapping), ("set", .set),
   ("omap", .pairs), ("pairs", .pairs), ("merge", .merge), ("value", .default)]

def ofText (text : String) : Tag :=
  ((names.map fun (name, tag) => (root ++ name, tag)).lookup text).getD .other

/-- The tag that says nothing but that plain text may be meant. -/
def lone : String := "!"

/-- What the handles of tags stand for, unless a document says otherwise. -/
def handles : List (String × String) := [("!", "!"), ("!!", root)]

end Tag

end RustSchema.Yaml
