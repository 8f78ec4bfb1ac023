/-
  RustSchema.ModPath — module paths and the names reached through them.

  A path is absolute (`::a::b`) or relative (`a::b`); a qualified name is a path and the
  identifier at its end. Text and names go both ways: `QualName.text` writes a name and
  `QualName.parse?` reads one, cutting at each `::` from the left. A text is no name
  exactly when nothing follows its last `::`, or when it is empty.
-/

namespace RustSchema

/-- The segment that leads from a module to its parent. -/
def superSegment : String := "super"

structure ModPath where
  absolute : Bool := false
  segments : List String := []
  deriving DecidableEq, Repr

/-- An identifier reached through a module path: `super::shop::Order`. -/
structure QualName where
  path : ModPath := {}
  ident : String
  deriving DecidableEq, Repr

/-- Where a name is used: the schema file being generated, and the module inside the
    module of that file. -/
structure Site where
  file : String
  within : ModPath := {}
  deriving DecidableEq, Repr

/-! ## Paths -/

namespace ModPath

def relative (segments : List String) : ModPath := ⟨false, segments⟩

def isEmpty (p : ModPath) : Bool := p.segments.isEmpty

def first? (p : ModPath) : Option String := p.segments.head?

def dropFirst (p : ModPath) : ModPath := { p with segments := p.segments.tail }

/-- The way back from the module to where its path began: one `super` per segment. -/
def ascent (p : ModPath) : ModPath := relative (List.replicate p.segments.length superSegment)

def push (p : ModPath) (segment : String) : ModPath :=
  { p with segments := p.segments ++ [segment] }

def toName (p : ModPath) (ident : String) : QualName := ⟨p, ident⟩

def text (p : ModPath) : String :=
  if p.absolute then "::" ++ "::".intercalate p.segments else "::".intercalate p.segments

@[simp] theorem isEmpty_iff {p : ModPath} : p.isEmpty = true ↔ p.segments = [] := by
  simp [isEmpty]

@[simp] theorem relative_absolute (segments : List String) :
    (relative segments).absolute = false := rfl

@[simp] theorem relative_segments (segments : List String) :
    (relative segments).segments = segments := rfl

@[simp] theorem ascent_absolute (p : ModPath) : p.ascent.absolute = false := rfl

@[simp] theorem ascent_segments (p : ModPath) :
    p.ascent.segments = List.replicate p.segments.length superSegment := rfl

@[simp] theorem push_absolute (p : ModPath) (segment : String) :
    (p.push segment).absolute = p.absolute := rfl

@[simp] theorem push_segments (p : ModPath) (segment : String) :
    (p.push segment).segments = p.segments ++ [segment] := rfl

end ModPath

/-! ## Names -/

namespace QualName

def text (name : QualName) : String :=
  if name.path.isEmpty then
    if name.path.absolute then "::" ++ name.ident else name.ident
  else name.path.text ++ "::" ++ name.ident

/-- The pieces between the double colons, of which there is at least one; a third colon
    begins the next piece. -/
def pieces : List Char → List (List Char)
  | ':' :: ':' :: rest => [] :: pieces rest
  | c :: rest => (pieces rest).modifyHead (c :: ·)
  | [] => [[]]

/-- The mark of an absolute name, and what follows it. -/
def root : List Char → Bool × List Char
  | ':' :: ':' :: rest => (true, rest)
  | cs => (false, cs)

/-- Reads `::a::b::C`, `a::C` or `C`. -/
def parse? (text : String) : Option QualName :=
  let (absolute, body) := root text.toList
  let parts := pieces body
  match parts.getLast? with
  | some (c :: cs) =>
    some ⟨⟨absolute, parts.dropLast.map String.ofList⟩, String.ofList (c :: cs)⟩
  | _ => none

end QualName

end RustSchema
