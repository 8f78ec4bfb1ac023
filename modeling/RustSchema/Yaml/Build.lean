/-
  RustSchema.Yaml.Build — what is made of the nodes of a document.

  Text becomes a scalar as soon as it is met, and that is never made again. A collection is
  only begun when it is met, and has its turn to be filled after those that were begun
  before it; so of several nodes without a value the one nearest to the root is reported.

  Filling a mapping first puts the mappings merged into it in front of its own entries, and
  makes mere text of each key that marks a default value. Both change the nodes for good:
  whoever comes to them later finds them changed.
-/

import RustSchema.Yaml.Base64
import RustSchema.Yaml.Moment
import RustSchema.Yaml.Node

namespace RustSchema.Yaml

/-! ## Scalars -/

/-- The words for truth values, in lower case. -/
def truthWords : List (String × Bool) :=
  [("yes", true), ("no", false), ("true", true), ("false", false), ("on", true), ("off", false)]

def truthOf (text : String) : Except Unvalued Bool :=
  let word := String.ofList (Text.lower text.toList)
  match truthWords.lookup word with
  | some b => .ok b
  | none => .error (.truthWord word)

def bytesOf (text : String) : Except Fault (List UInt8) :=
  let cs := text.toList
  match cs.all Text.isAscii, Base64.bytes cs with
  | true, some bytes => .ok bytes
  | _, _ => .error .malformed

/-- The value of text with a tag. -/
def Scalar.ofText (tag : Tag) (text : String) : Except Fault Scalar :=
  match tag with
  | .null => .ok .null
  | .bool => ((truthOf text).map .bool).mapError .unvalued
  | .int => ((Number.int text.toList).map .int).mapError .unvalued
  | .float => ((Number.float text.toList).map .float).mapError .unvalued
  | .time => (Moment.scalar text.toList).mapError .unvalued
  | .binary => (bytesOf text).map .bytes
  | .text => .ok (.text text)
  | _ => .error .malformed

/-! ## The state -/

/-- What is made of a node. Collections hold the numbers of nodes, and keys themselves. -/
inductive Made where
  | scalar (s : Scalar)
  | list (items : List Nat)
  | mapping (entries : List (Scalar × Nat))
  | set (entries : List (Scalar × Nat))
  | pairs (items : List (Nat × Nat))
  deriving DecidableEq, Repr

/-- An empty collection of the tag's sort. -/
def Made.begun? : Tag → Option Made
  | .list => some (.list [])
  | .mapping => some (.mapping [])
  | .set => some (.set [])
  | .pairs => some (.pairs [])
  | _ => none

structure Builder where
  nodes : Array Node
  /-- What is made of each node so far. -/
  made : Array (Option Made)
  /-- The collections that are begun and not yet filled, in order. -/
  waiting : List Nat := []

abbrev Build (α : Type) := StateT Builder (Except Fault) α

namespace Builder

variable (b : Builder)

/-- The node with number `n`; a number that is not given means no text. -/
def node (n : Nat) : Node := b.nodes[n]?.getD .empty

def madeOf (n : Nat) : Option Made := b.made[n]?.join

/-- The entries of a node that is a mapping. -/
def entries? (n : Nat) : Option (List (Nat × Nat)) :=
  match (b.node n).content with
  | .mapping entries => some entries
  | _ => none

/-- The entry's key has the tag. -/
def hasKey (tag : Tag) (entry : Nat × Nat) : Bool := (b.node entry.1).tag = tag

/-- The text of a node; that of a mapping is the one of its default value. `fuel` bounds the
    number of default values in one another. -/
def textOf : Nat → Nat → Except Fault String
  | 0, _ => .error (.unvalued .endless)
  | fuel + 1, n =>
    match (b.node n).content with
    | .text s => .ok s
    | .list _ => .error .malformed
    | .mapping entries =>
      match entries.find? (b.hasKey .default) with
      | some (_, v) => textOf fuel v
      | none => .error .malformed

/-- The scalar that a node is. A time is read from the node itself, which a mapping cannot
    be. -/
def scalarOf (n : Nat) : Except Fault Scalar := do
  let tag := (b.node n).tag
  if tag ∈ [Tag.merge, .default, .other] then throw .malformed
  let text ← b.textOf (b.nodes.size + 1) n
  if tag = .time && (b.entries? n).isSome then throw (.unvalued .timeOfMapping)
  Scalar.ofText tag text

def setContent (n : Nat) (content : Content) : Builder :=
  { b with nodes := b.nodes.modify n fun node => { node with content } }

def setMade (n : Nat) (made : Made) : Builder :=
  { b with made := b.made.setIfInBounds n (some made) }

/-- The mark of a default value, as a key, is mere text from now on. -/
def nameDefault (entry : Nat × Nat) : Builder :=
  if b.hasKey .default entry then
    { b with nodes := b.nodes.modify entry.1 fun node => { node with tag := .text } }
  else b

end Builder

namespace Build

/-! ## Merging -/

/-- Takes the first merge out of a mapping and gives back what is to be merged. -/
def takeMerge (n : Nat) : Build (Option Nat) := do
  let b ← get
  let entries := (b.entries? n).getD []
  match entries.find? (b.hasKey .merge) with
  | some (_, v) =>
    set (b.setContent n (.mapping (entries.eraseP (b.hasKey .merge))))
    return some v
  | none => return none

/-- The mappings that a node asks to be merged: itself, or all that it lists. -/
def mergeTargets (n : Nat) : Build (List Nat) := do
  match ((← get).node n).content with
  | .mapping _ => return [n]
  | .list items => return items
  | .text _ => throw .malformed

/-- The entries of a mapping. -/
def entriesOf (n : Nat) : Build (List (Nat × Nat)) := do
  match (← get).entries? n with
  | some entries => return entries
  | none => throw .malformed

/-- Replaces the merges of a mapping by the entries of what they merge. Of several mappings
    in one merge the last comes first, so that the first one wins. Each merge is gone before
    what it merges is gone into, so `fuel` has to be more than the number of merges. -/
def flatten : Nat → Nat → Build Unit
  | 0, _ => throw .malformed
  | fuel + 1, n => do
    match ← takeMerge n with
    | none => modify fun b => ((b.entries? n).getD []).foldl Builder.nameDefault b
    | some target =>
      let merged ← (← mergeTargets target).mapM fun m => do
        discard (entriesOf m)
        flatten fuel m
        entriesOf m
      flatten fuel n
      let own ← entriesOf n
      modify (·.setContent n (.mapping (merged.reverse.flatten ++ own)))

/-- The number of entries in all mappings. -/
def countEntries (b : Builder) : Nat :=
  b.nodes.foldl (fun n node => match node.content with
    | .mapping entries => n + entries.length
    | _ => n) 0

/-! ## Making -/

/-- Makes a scalar, or begins a collection. -/
def make (n : Nat) : Build Unit := do
  let b ← get
  if (b.madeOf n).isSome then return
  match Made.begun? (b.node n).tag with
  | some begun => set { b.setMade n begun with waiting := b.waiting ++ [n] }
  | none => set (b.setMade n (.scalar (← b.scalarOf n)))

/-- Makes a key. A collection is none. -/
def makeKey (n : Nat) : Build Scalar := do
  make n
  match (← get).madeOf n with
  | some (.scalar s) => return s
  | _ => throw .malformed

def makeEntries (n : Nat) : Build (List (Scalar × Nat)) := do
  discard (entriesOf n)
  flatten (countEntries (← get) + 1) n
  (← entriesOf n).mapM fun (key, v) => do
    let key ← makeKey key
    make v
    return (key, v)

/-- Makes a pair of a mapping with one entry, as it stands. -/
def makePair (n : Nat) : Build (Nat × Nat) := do
  match ← entriesOf n with
  | [(key, v)] =>
    make key
    make v
    return (key, v)
  | _ => throw .malformed

/-- The items of a list. -/
def itemsOf (n : Nat) : Build (List Nat) := do
  match ((← get).node n).content with
  | .list items => return items
  | _ => throw .malformed

/-- Fills a collection, whose contents have to be of its sort. -/
def fill (n : Nat) : Build Unit := do
  let made ← match ((← get).node n).tag with
    | .list => do
      let items ← itemsOf n
      items.forM make
      pure (Made.list items)
    | .pairs => do pure (.pairs (← (← itemsOf n).mapM makePair))
    | .set => do pure (.set (← makeEntries n))
    | _ => do pure (.mapping (← makeEntries n))
  modify (·.setMade n made)

/-- Fills what is waiting, and what is begun meanwhile. `fuel` bounds the number of
    collections. -/
def settle : Nat → Build Unit
  | 0 => return
  | fuel + 1 => do
    match (← get).waiting with
    | [] => return
    | n :: waiting =>
      modify fun b => { b with waiting }
      fill n
      settle fuel

end Build

/-- What is made of every node of a document. -/
def Document.build (d : Document) : Except Fault (Array (Option Made)) := do
  let start : Builder := { nodes := d.nodes, made := .replicate d.nodes.size none }
  let (_, b) ← (do Build.make d.root; Build.settle d.nodes.size : Build Unit).run start
  return b.made

end RustSchema.Yaml
