/-
  RustSchema.Yaml.Value — the value of a YAML text.

  A mapping has each key once: of two equal keys the first spelling stays, with the last
  value. A collection is no key.
-/

import RustSchema.Yaml.Build
import RustSchema.Yaml.Lexer

namespace RustSchema.Yaml

inductive Value where
  | scalar (s : Scalar)
  | list (items : List Value)
  | mapping (entries : List (Scalar × Value))
  | set (items : List Scalar)
  | pairs (items : List (Value × Value))
  /-- A collection that is written elsewhere in the document. -/
  | again
  deriving Inhabited, Repr

/-! ## Entries -/

section Entries

variable {α : Type}

/-- Sets the value of a key; a new key goes to the end. -/
def setEntry (key : Scalar) (v : α) : List (Scalar × α) → List (Scalar × α)
  | [] => [(key, v)]
  | (k, w) :: rest => if k.sameKey key then (k, v) :: rest else (k, w) :: setEntry key v rest

def oneEach (entries : List (Scalar × α)) : List (Scalar × α) :=
  entries.foldl (fun done (key, v) => setEntry key v done) []

end Entries

namespace Value

/-! ## Values of nodes -/

/-- Writes a collection out where it stands first; the state holds those written before. -/
def once (n : Nat) (v : StateM (List Nat) Value) : StateM (List Nat) Value := do
  if (← get).contains n then return .again
  modify (n :: ·)
  v

/-- The value of node `n`. `fuel` bounds the depth. -/
def ofMade (made : Array (Option Made)) : Nat → Nat → StateM (List Nat) Value
  | 0, _ => return .again
  | fuel + 1, n =>
    match made[n]?.join with
    | none => return .again
    | some (.scalar s) => return .scalar s
    | some (.list items) => once n do return .list (← items.mapM (ofMade made fuel))
    | some (.set entries) => once n do return .set ((oneEach entries).map (·.1))
    | some (.mapping entries) => once n do
      return .mapping (← (oneEach entries).mapM fun (key, v) => do
        return (key, ← ofMade made fuel v))
    | some (.pairs items) => once n do
      return .pairs (← items.mapM fun (key, v) => do
        return (← ofMade made fuel key, ← ofMade made fuel v))

end Value

/-- No path without a circle is longer than the number of nodes. -/
def Document.toValue (d : Document) : Except Fault Value := do
  let made ← d.build
  return ((Value.ofMade made (d.nodes.size + 1) d.root).run []).1

/-- The value of a text that holds one document or none; none is null. -/
def Value.ofText (text : String) : Except Fault Value := do
  match ← Document.ofTokens (.ofText text) with
  | none => return .scalar .null
  | some d => d.toValue

end RustSchema.Yaml
