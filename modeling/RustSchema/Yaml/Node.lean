/-
  RustSchema.Yaml.Node — the nodes of a YAML document, and tokens to nodes.

  A document numbers its nodes, and collections hold numbers: the alias of a node is its
  number once more, also inside that very node. A node has its number, and its name if an
  anchor gives it one, before its contents are read. Every place where a node may stand and
  none is written holds empty plain text.

  A node has the tag it is given, whatever its contents are; without one, or with a lone
  mark, it has the one of its spelling.
-/

import RustSchema.Yaml.Resolve
import RustSchema.Yaml.Token

namespace RustSchema.Yaml

inductive Content where
  | text (s : String)
  | list (items : List Nat)
  | mapping (entries : List (Nat × Nat))
  deriving DecidableEq, Inhabited, Repr

structure Node where
  tag : Tag
  content : Content
  deriving DecidableEq, Repr

structure Document where
  nodes : Array Node
  root : Nat
  deriving DecidableEq, Repr

namespace Node

/-- Empty plain text. -/
def empty : Node := ⟨.null, .text ""⟩

/-- The tag that is given, or else the one of the spelling. -/
def tagFor (given : Option String) (spelled : Tag) : Tag :=
  match given with
  | none => spelled
  | some tag => if tag = Tag.lone then spelled else .ofText tag

/-- Text in quotes is mere text, unless it has a tag. -/
def ofText (given : Option String) (plain : Bool) (text : String) : Node :=
  ⟨tagFor given (if plain || given.isSome then Resolve.tagOf text else .text), .text text⟩

/-! ## Reading tokens -/

/-- The tokens still to read, the names given so far, and the nodes read so far. -/
structure Source where
  tokens : Tokens
  /-- What the handles of tags stand for. -/
  handles : List (String × String) := Tag.handles
  names : List (String × Nat) := []
  nodes : Array Node := #[]

abbrev Read (α : Type) := StateT Source (Except Fault) α

namespace Read

/-- The next token. What comes after the last one is the end of the text, or its fault. -/
def peek : Read (Option Token) := fun s =>
  match s.tokens.list, s.tokens.fault with
  | [], some fault => .error fault
  | tokens, _ => .ok (tokens.head?, s)

def skip : Read Unit :=
  modify fun s => { s with tokens := { s.tokens with list := s.tokens.list.tail } }

/-- Numbers a node. A name is given once. -/
def add (name : Option String) (node : Node) : Read Nat := do
  let s ← get
  let number := s.nodes.size
  match name with
  | none => set { s with nodes := s.nodes.push node }
  | some name =>
    if (s.names.lookup name).isSome then throw .malformed
    set { s with names := (name, number) :: s.names, nodes := s.nodes.push node }
  return number

/-- Numbers a collection and reads its contents. -/
def collection (name : Option String) (tag : Tag) (contents : Read Content) : Read Nat := do
  let number ← add name .empty
  let content ← contents
  modify fun s => { s with nodes := s.nodes.setIfInBounds number ⟨tag, content⟩ }
  return number

def named (name : String) : Read Nat := do
  match (← get).names.lookup name with
  | some number => return number
  | none => throw .malformed

/-- The tag that a handle and the rest of a name make. -/
def tagText (handle : Option String) (suffix : String) : Read String := do
  match handle with
  | none => return suffix
  | some handle =>
    match (← get).handles.lookup handle with
    | some lead => return lead ++ suffix
    | none => throw .malformed

/-- The anchor and the tag of a node, in either order. -/
def properties : Read (Option String × Option String) := do
  match ← peek with
  | some (.anchor name) =>
    skip
    match ← peek with
    | some (.tag handle suffix) => skip; return (some name, some (← tagText handle suffix))
    | _ => return (some name, none)
  | some (.tag handle suffix) =>
    skip
    match ← peek with
    | some (.anchor name) => skip; return (some name, some (← tagText handle suffix))
    | _ => return (none, some (← tagText handle suffix))
  | _ => return (none, none)

/-- Between two items stands a comma. -/
def comma (first : Bool) : Read Unit := do
  if !first then
    match ← peek with
    | some .flowEntry => skip
    | _ => throw .malformed

end Read

open Read

/-- Where a node may stand in block style, and what it may be there. -/
inductive Place where
  | flow
  | block
  /-- A block sequence needs no indentation here. -/
  | blockValue
  deriving DecidableEq, Repr

mutual

/-- One node. `fuel` bounds the depth of the calls. -/
def read (place : Place) : Nat → Read Nat
  | 0 => throw .malformed
  | fuel + 1 => do
    match ← peek with
    | some (.alias name) => skip; named name
    | _ =>
      let (name, tag) ← properties
      let list := collection name (tagFor tag .list)
      let mapping := collection name (tagFor tag .mapping)
      match ← peek, place with
      | some .blockEntry, .blockValue => list (.list <$> bareItems fuel)
      | some (.scalar text plain), _ => skip; add name (.ofText tag plain text)
      | some .flowSequenceStart, _ => skip; list (.list <$> flowItems fuel true)
      | some .flowMappingStart, _ => skip; mapping (.mapping <$> flowEntries fuel true)
      | some .blockSequenceStart, .block | some .blockSequenceStart, .blockValue =>
        skip; list (.list <$> blockItems fuel)
      | some .blockMappingStart, .block | some .blockMappingStart, .blockValue =>
        skip; mapping (.mapping <$> blockEntries fuel)
      | _, _ =>
        if name.isSome || tag.isSome then add name (.ofText tag true "") else throw .malformed

/-- A node, or the empty one before a token of `ends`. -/
def readOrEmpty (place : Place) (ends : List Token) : Nat → Read Nat
  | 0 => throw .malformed
  | fuel + 1 => do
    match ← peek with
    | some token => if token ∈ ends then add none empty else read place fuel
    | none => throw .malformed

/-- The items of an indented block sequence, up to its end. -/
def blockItems : Nat → Read (List Nat)
  | 0 => throw .malformed
  | fuel + 1 => do
    match ← peek with
    | some .blockEntry =>
      skip
      let item ← readOrEmpty .block [.blockEntry, .blockEnd] fuel
      return item :: (← blockItems fuel)
    | some .blockEnd => skip; return []
    | _ => throw .malformed

/-- The items of a block sequence without indentation, which no token ends. -/
def bareItems : Nat → Read (List Nat)
  | 0 => throw .malformed
  | fuel + 1 => do
    match ← peek with
    | some .blockEntry =>
      skip
      let item ← readOrEmpty .block [.blockEntry, .key, .value, .blockEnd] fuel
      return item :: (← bareItems fuel)
    | _ => return []

/-- The entries of a block mapping, up to its end. -/
def blockEntries : Nat → Read (List (Nat × Nat))
  | 0 => throw .malformed
  | fuel + 1 => do
    match ← peek with
    | some .key =>
      skip
      let key ← readOrEmpty .blockValue [.key, .value, .blockEnd] fuel
      let value ← valueAfter .blockValue [.key, .value, .blockEnd] fuel
      return (key, value) :: (← blockEntries fuel)
    | some .blockEnd => skip; return []
    | _ => throw .malformed

/-- The value of an entry, which is empty without a mark. -/
def valueAfter (place : Place) (ends : List Token) : Nat → Read Nat
  | 0 => throw .malformed
  | fuel + 1 => do
    match ← peek with
    | some .value => skip; readOrEmpty place ends fuel
    | _ => add none empty

/-- The items of a sequence in brackets; an item with the mark of a key is a mapping of one
    entry. -/
def flowItems : Nat → Bool → Read (List Nat)
  | 0, _ => throw .malformed
  | fuel + 1, first => do
    match ← peek with
    | some .flowSequenceEnd => skip; return []
    | _ =>
      comma first
      match ← peek with
      | some .flowSequenceEnd => skip; return []
      | some .key =>
        skip
        let ends := [Token.flowEntry, .flowSequenceEnd]
        let key ← readOrEmpty .flow (.value :: ends) fuel
        let value ← valueAfter .flow ends fuel
        let item ← add none ⟨.mapping, .mapping [(key, value)]⟩
        return item :: (← flowItems fuel false)
      | _ =>
        let item ← read .flow fuel
        return item :: (← flowItems fuel false)

/-- The entries of a mapping in braces; an entry without the mark of a key has no value. -/
def flowEntries : Nat → Bool → Read (List (Nat × Nat))
  | 0, _ => throw .malformed
  | fuel + 1, first => do
    match ← peek with
    | some .flowMappingEnd => skip; return []
    | _ =>
      comma first
      match ← peek with
      | some .flowMappingEnd => skip; return []
      | some .key =>
        skip
        let ends := [Token.flowEntry, .flowMappingEnd]
        let key ← readOrEmpty .flow (.value :: ends) fuel
        let value ← valueAfter .flow ends fuel
        return (key, value) :: (← flowEntries fuel false)
      | _ =>
        let key ← read .flow fuel
        let value ← add none empty
        return (key, value) :: (← flowEntries fuel false)

end

/-! ## Documents -/

/-- The directives before a document: one version, which is of the first YAML, and one
    meaning for each handle. `fuel` bounds their number. -/
def directives : Nat → Bool → List (String × String) → Read Unit
  | 0, _, _ => throw .malformed
  | fuel + 1, versioned, handles => do
    match ← peek with
    | some (.directive (.version major)) =>
      skip
      if versioned || major ≠ 1 then throw .malformed
      directives fuel true handles
    | some (.directive (.handle name lead)) =>
      skip
      if (handles.lookup name).isSome then throw .malformed
      directives fuel versioned ((name, lead) :: handles)
    | some (.directive .other) => skip; directives fuel versioned handles
    | _ => modify fun s => { s with handles := handles ++ Tag.handles }

/-- Only the marks that end a document may follow it. `fuel` bounds their number. -/
def finish : Nat → Read Unit
  | 0 => throw .malformed
  | fuel + 1 => do
    match ← peek with
    | none => return ()
    | some .documentEnd => skip; finish fuel
    | some (.directive _) => directives fuel false []; throw .malformed
    | _ => throw .malformed

/-- The root after the mark that starts a document, which is empty if the document ends. -/
def markedRoot (fuel : Nat) : Read Nat := do
  match ← peek with
  | none | some (.directive _) | some .documentStart | some .documentEnd => add none empty
  | _ => read .block fuel

/-- The number of the root of the only document of a stream, or nothing for a stream
    without one. Directives need a mark after them. -/
def root? (fuel : Nat) : Read (Option Nat) := do
  match ← peek with
  | none => return none
  | some (.directive _) | some .documentStart =>
    directives fuel false []
    match ← peek with
    | some .documentStart =>
      skip
      let root ← markedRoot fuel
      finish fuel
      return some root
    | _ => throw .malformed
  | _ =>
    let root ← read .block fuel
    finish fuel
    return some root

end Node

namespace Document

/-- The node with number `n`; a number that is not given means no text. -/
def node (d : Document) (n : Nat) : Node := d.nodes[n]?.getD .empty

/-- The only document of a stream, or nothing for a stream without one. -/
def ofTokens (tokens : Tokens) : Except Fault (Option Document) := do
  let (root, s) ← (Node.root? (3 * tokens.list.length + 3)).run { tokens }
  return root.map fun root => ⟨s.nodes, root⟩

end Document

end RustSchema.Yaml
