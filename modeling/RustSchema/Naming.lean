/-
  RustSchema.Naming — the name by which a declared type is written at a site.

  Every generated file is a module, and the modules of all files are siblings. The first
  route that fits wins: a type of the file being generated is reached by the shortest path
  from the current module; a well-known type and a type of the schema of schemas have fixed
  names in the runtime library; any other type is reached by leaving the current modules
  and the file's module, and entering the module of the declaring file.
-/

import RustSchema.Scope
import RustSchema.Traced
import RustSchema.WellKnown

namespace RustSchema

namespace Declared

/-- Up through the current modules and out of the file's module. -/
def throughParent (d : Declared) (site : Site) : Except Error QualName := do
  (site.within.ascent.push superSegment).appendName (← d.nameWithFile)

/-- How the type is reached from the site, and its name there. -/
def route (d : Declared) (site : Site) : Except Error (Route × QualName) :=
  if d.file.name = site.file then do
    return (.sameFile, ← d.nameInFile.seenFrom site.within)
  else
    match WellKnown.simpleName? d.absoluteName with
    | some simple => .ok (.wellKnown, WellKnown.rustName simple)
    | none =>
      if WellKnown.isDescriptorFile d.file then do
        return (.descriptor, ← WellKnown.descriptorModule.appendName d.nameInFile)
      else do
        return (.otherFile d.file.name, ← d.throughParent site)

def nameAt (d : Declared) (site : Site) : Traced Error QualName := do
  let (route, name) ← d.route site
  Traced.note (.resolved d.absoluteName route name)
  return name

end Declared

/-- The name at the site of the type with absolute schema name `typeName`. -/
def Scope.nameAt (scope : Scope) (typeName : String) (site : Site) : Traced Error QualName := do
  if typeName = "" then Traced.ofExcept (.error .emptyTypeName)
  else (← scope.find typeName).nameAt site

end RustSchema
