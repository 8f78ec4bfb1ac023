/-
  RustSchema.ModPath.Travel — getting from one module to another.

  `ModPath.toward` is the shortest relative path between two modules: the segments that
  both paths begin with are left out, every segment left of the source becomes one step up,
  and the segments left of the destination follow. `ModPath.walk` says what a path means,
  as a walk in the module tree: `super` leaves a module and any other segment enters one.
-/

import RustSchema.Error
import RustSchema.ModPath

namespace RustSchema

namespace ModPath

/-- Only a relative path continues another. -/
def append (p tail : ModPath) : Except Error ModPath :=
  if tail.absolute then .error (.absoluteTail tail p)
  else .ok { p with segments := p.segments ++ tail.segments }

def appendName (p : ModPath) (name : QualName) : Except Error QualName := do
  return (← p.append name.path).toName name.ident

/-- Leaves out the segments that both lists begin with. -/
def fork : List String → List String → List String × List String
  | s :: source, d :: dest => if s = d then fork source dest else (s :: source, d :: dest)
  | source, dest => (source, dest)

/-- The shortest path from module `source` to module `dest`. An absolute destination needs
    no source; a relative one can only be reached from a relative source. -/
def toward (source dest : ModPath) : Except Error ModPath :=
  if dest.absolute then .ok dest
  else if source.absolute then .error (.absoluteSource source)
  else
    let (up, down) := fork source.segments dest.segments
    (relative up).ascent.append (relative down)

/-- The module reached from `here` by following the segments: one step up from the top of
    the tree leads nowhere. -/
def walk (here : List String) : List String → Option (List String)
  | [] => some here
  | segment :: rest =>
    if segment = superSegment then
      if here = [] then none else walk here.dropLast rest
    else walk (here ++ [segment]) rest

theorem append_of_relative {p tail : ModPath} (h : tail.absolute = false) :
    p.append tail = .ok { p with segments := p.segments ++ tail.segments } := by
  simp [append, h]

theorem appendName_of_relative {p : ModPath} {name : QualName} (h : name.path.absolute = false) :
    p.appendName name =
      .ok ({ p with segments := p.segments ++ name.path.segments }.toName name.ident) := by
  rw [appendName, append_of_relative h]
  rfl

end ModPath

namespace QualName

/-- The name as it is written inside module `source`. -/
def seenFrom (name : QualName) (source : ModPath) : Except Error QualName := do
  return (← source.toward name.path).toName name.ident

def parse (text : String) : Except Error QualName :=
  match parse? text with
  | some name => .ok name
  | none => .error (.notAName text)

end QualName

end RustSchema
