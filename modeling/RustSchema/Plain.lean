/-
  RustSchema.Plain — plain data: the form in which names, types and declarations come in
  and go out.

  Reading plain data checks every field and reports every problem, each with the way to
  the place it was found at, in the order of the fields. `Reading` therefore goes on after
  a problem: two readings combined (`<*>`) have the problems of both.

  Types and messages stand in one another as deep as the data has them. Whoever reads may set
  a `Guard` against data that is too deep; nothing here depends on which one that is.
-/

import RustSchema.Double

namespace RustSchema

/-- Plain data. A number written with a fraction or an exponent is a `float`, even where it
    is whole. -/
inductive Plain where
  | null
  | bool (b : Bool)
  | int (n : Int)
  | float (x : Double)
  | text (s : String)
  | list (items : List Plain)
  | object (entries : List (String × Plain))
  deriving Inhabited, Repr

/-! ## Problems -/

/-- One step on the way to a place in plain data. -/
inductive Step where
  | key (name : String)
  | index (i : Nat)
  deriving DecidableEq, Repr

inductive ProblemKind where
  | missing
  | notObject
  /-- What should be a type is no object. -/
  | notTagged
  | noTag
  | unknownTag
  | notText
  | notList
  | notBool
  | unreadableBool
  | notListed
  | tooLarge
  | notKind
  | fractional
  | notFinite
  | notNumber
  | unreadableNumber
  /-- Too deep for the guard, which has its own word for it. -/
  | stopped (word : String)
  deriving DecidableEq, Repr

/-- The word by which reports name the problem. -/
def ProblemKind.code : ProblemKind → String
  | .missing => "missing"
  | .notObject => "model_type"
  | .notTagged => "model_attributes_type"
  | .noTag => "union_tag_not_found"
  | .unknownTag => "union_tag_invalid"
  | .notText => "string_type"
  | .notList => "tuple_type"
  | .notBool => "bool_type"
  | .unreadableBool => "bool_parsing"
  | .notListed => "literal_error"
  | .tooLarge => "int_parsing_size"
  | .notKind => "enum"
  | .fractional => "int_from_float"
  | .notFinite => "finite_number"
  | .notNumber => "int_type"
  | .unreadableNumber => "int_parsing"
  | .stopped word => word

structure Problem where
  place : List Step
  kind : ProblemKind
  deriving DecidableEq, Repr

def Problem.under (step : Step) (p : Problem) : Problem := { p with place := step :: p.place }

/-! ## Readings -/

/-- What reading gives: a value, or all the problems found. -/
inductive Reading (α : Type) where
  | done (a : α)
  | problems (ps : List Problem)
  deriving Repr

namespace Reading

variable {α β : Type}

def fail (kind : ProblemKind) : Reading α := .problems [⟨[], kind⟩]

def map (f : α → β) : Reading α → Reading β
  | .done a => .done (f a)
  | .problems ps => .problems ps

/-- The problems of the first reading come first. -/
def apply : Reading (α → β) → Reading α → Reading β
  | .done f, .done a => .done (f a)
  | .done _, .problems qs => .problems qs
  | .problems ps, .done _ => .problems ps
  | .problems ps, .problems qs => .problems (ps ++ qs)

instance : Applicative Reading where
  pure := .done
  map := map
  seq f x := apply f (x ())

/-- The reading of what lies one step further in. -/
def under (step : Step) : Reading α → Reading α
  | .done a => .done a
  | .problems ps => .problems (ps.map (·.under step))

def toExcept : Reading α → Except (List Problem) α
  | .done a => .ok a
  | .problems ps => .error ps

@[simp] theorem map_done (f : α → β) (a : α) : f <$> (done a) = done (f a) := rfl

@[simp] theorem pure_eq (a : α) : (pure a : Reading α) = done a := rfl

@[simp] theorem done_seq_done (f : α → β) (a : α) : (done f) <*> (done a) = done (f a) := rfl

@[simp] theorem under_done (step : Step) (a : α) : (done a).under step = done a := rfl

end Reading

/-! ## Guards -/

/-- What can stand in others of its sort, or hold such. -/
inductive Layer where
  | type (tag : String)
  | message
  | file
  deriving DecidableEq, Repr

/-- What keeps a reading from going too deep. It is shown the layers that the reading is in, the
    innermost first, and may stop it there with a word for the problem. -/
abbrev Guard := List Layer → Option String

namespace Guard

/-- Stops no reading, however deep. -/
def off : Guard := fun _ => none

def watch {α : Type} (guard : Guard) (layers : List Layer) (reading : Reading α) : Reading α :=
  match guard layers with
  | some word => .fail (.stopped word)
  | none => reading

end Guard

/-! ## Objects and lists -/

namespace Plain

variable {α : Type}

/-- A field that has to be there. -/
def required (entries : List (String × Plain)) (key : String) (read : Plain → Reading α) :
    Reading α :=
  match entries.lookup key with
  | some v => (read v).under (.key key)
  | none => (Reading.fail .missing).under (.key key)

/-- A field with a default. -/
def optional (entries : List (String × Plain)) (key : String) (default : α)
    (read : Plain → Reading α) : Reading α :=
  match entries.lookup key with
  | some v => (read v).under (.key key)
  | none => .done default

def itemsFrom {β : Type} (read : β → Reading α) (i : Nat) : List β → Reading (List α)
  | [] => .done []
  | v :: rest => (· :: ·) <$> (read v).under (.index i) <*> itemsFrom read (i + 1) rest

def listOf (read : Plain → Reading α) : Plain → Reading (List α)
  | .list items => itemsFrom read 0 items
  | _ => .fail .notList

theorem itemsFrom_map {β γ : Type} (write : β → γ) (read : γ → Reading β) (i : Nat)
    (xs : List β) (h : ∀ x ∈ xs, read (write x) = .done x) :
    itemsFrom read i (xs.map write) = .done xs := by
  induction xs generalizing i with
  | nil => rfl
  | cons x rest ih =>
    simp only [List.map_cons, itemsFrom]
    rw [h x (by simp), ih (i + 1) fun y hy => h y (by simp [hy])]
    simp

/-! ## Reading what lies inside

  A reading that calls itself may do so on smaller data only. These three are `required`,
  `optional` and `listOf` for it. -/

section Inside

variable {entries : List (String × Plain)} {items : List Plain} {key : String} {v : Plain}

theorem sizeOf_lt_of_lookup (h : entries.lookup key = some v) :
    sizeOf v < sizeOf (Plain.object entries) := by
  obtain ⟨before, after, rfl, -⟩ := List.lookup_eq_some_iff.mp h
  have hmem : (key, v) ∈ before ++ (key, v) :: after := by simp
  have hlt := List.sizeOf_lt_of_mem hmem
  simp only [Plain.object.sizeOf_spec, Prod.mk.sizeOf_spec] at hlt ⊢
  omega

theorem sizeOf_lt_of_mem (h : v ∈ items) : sizeOf v < sizeOf (Plain.list items) := by
  have hlt := List.sizeOf_lt_of_mem h
  simp only [Plain.list.sizeOf_spec]
  omega

def requiredInside (entries : List (String × Plain)) (key : String)
    (read : (v : Plain) → sizeOf v < sizeOf (Plain.object entries) → Reading α) : Reading α :=
  match h : entries.lookup key with
  | some v => (read v (sizeOf_lt_of_lookup h)).under (.key key)
  | none => (Reading.fail .missing).under (.key key)

def optionalInside (entries : List (String × Plain)) (key : String) (default : α)
    (read : (v : Plain) → sizeOf v < sizeOf (Plain.object entries) → Reading α) : Reading α :=
  match h : entries.lookup key with
  | some v => (read v (sizeOf_lt_of_lookup h)).under (.key key)
  | none => .done default

def listInside (v : Plain) (read : (item : Plain) → sizeOf item < sizeOf v → Reading α) :
    Reading (List α) :=
  match v with
  | .list items => itemsFrom (fun item => read item.1 (sizeOf_lt_of_mem item.2)) 0 items.attach
  | _ => .fail .notList

theorem requiredInside_eq (read : Plain → Reading α) :
    requiredInside entries key (fun v _ => read v) = required entries key read := by
  unfold requiredInside required
  split <;> rename_i h <;> simp only [h]

theorem optionalInside_eq (default : α) (read : Plain → Reading α) :
    optionalInside entries key default (fun v _ => read v) = optional entries key default read := by
  unfold optionalInside optional
  split <;> rename_i h <;> simp only [h]

theorem itemsFrom_attach (read : Plain → Reading α) (i : Nat) (items : List Plain) :
    itemsFrom (fun item : {v // v ∈ items} => read item.1) i items.attach =
      itemsFrom read i items := by
  have hmap : ∀ (β : Type) (f : β → Plain) (i : Nat) (xs : List β),
      itemsFrom (fun x => read (f x)) i xs = itemsFrom read i (xs.map f) := by
    intro β f i xs
    induction xs generalizing i with
    | nil => rfl
    | cons x rest ih => rw [List.map_cons, itemsFrom, itemsFrom, ih]
  rw [hmap _ Subtype.val, List.attach_map_subtype_val]

theorem listInside_eq (read : Plain → Reading α) :
    listInside v (fun item _ => read item) = listOf read v := by
  cases v with
  | list items => exact itemsFrom_attach read 0 items
  | _ => rfl

end Inside

end Plain

end RustSchema
