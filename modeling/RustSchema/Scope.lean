/-
  RustSchema.Scope — the messages and enums that a set of schema files declares, by
  absolute schema name.

  The types nested in a message are generated inside the module of that message, so
  `.pkg.Outer.Inner` of `pkg/outer.proto` becomes `outer::outer::Inner`: the file's module,
  the message's module, the type. The scope is filled in the order of the files, and a name
  declared twice means its last declaration. `declarations` lists what the files declare,
  in that order, and `table_ofFiles` says that the table takes them up one by one; so a
  lookup can be stated without the table that answers it.
-/

import RustSchema.Error
import RustSchema.Ident
import RustSchema.ModPath.Travel
import Std.Data.HashMap

namespace RustSchema

inductive Definition where
  | message (decl : MessageDecl)
  | enum (decl : EnumDecl)

/-- A message or enum with the file and the messages around it, the outermost first. -/
structure Declared where
  file : FileDecl
  enclosing : List String
  definition : Definition

namespace Definition

def name : Definition → String
  | .message decl => decl.name
  | .enum decl => decl.name

def sort : Definition → DeclSort
  | .message _ => .message
  | .enum _ => .enum

end Definition

namespace Declared

def name (d : Declared) : String := d.definition.name

def sort (d : Declared) : DeclSort := d.definition.sort

/-- `.pkg.Outer.Inner` -/
def absoluteName (d : Declared) : String :=
  let package := if d.file.package = "" then [] else [d.file.package]
  "." ++ ".".intercalate (package ++ d.enclosing ++ [d.name])

/-- The name inside the module of the declaring file. -/
def nameInFile (d : Declared) : QualName :=
  (ModPath.relative (d.enclosing.map Ident.messageModule)).toName (Ident.escape d.name)

/-- The name beside the module of the declaring file. -/
def nameWithFile (d : Declared) : Except Error QualName :=
  (ModPath.relative [Ident.fileModule d.file.name]).appendName d.nameInFile

end Declared

/-! ## The declarations of a schema -/

namespace FileDecl

variable (file : FileDecl)

def enumsIn (enclosing : List String) (enums : List EnumDecl) : List Declared :=
  enums.map fun decl => ⟨file, enclosing, .enum decl⟩

mutual

/-- A message, then its enums, then what its nested messages declare. -/
def messageIn (enclosing : List String) : MessageDecl → List Declared
  | ⟨name, fields, nested, enums⟩ =>
    ⟨file, enclosing, .message ⟨name, fields, nested, enums⟩⟩
      :: enumsIn file (enclosing ++ [name]) enums ++ messagesIn (enclosing ++ [name]) nested

def messagesIn (enclosing : List String) : List MessageDecl → List Declared
  | [] => []
  | decl :: rest => messageIn enclosing decl ++ messagesIn enclosing rest

end

/-- The top-level enums, then each top-level message with what is nested in it. -/
def declarations : List Declared := enumsIn file [] file.enums ++ messagesIn file [] file.messages

end FileDecl

/-! ## The table -/

structure Scope where
  files : List FileDecl
  table : Std.HashMap String Declared

namespace Scope

def add (table : Std.HashMap String Declared) (d : Declared) : Std.HashMap String Declared :=
  table.insert d.absoluteName d

def addEnums (file : FileDecl) (enclosing : List String) :
    List EnumDecl → Std.HashMap String Declared → Std.HashMap String Declared
  | [], table => table
  | decl :: rest, table =>
    addEnums file enclosing rest (add table ⟨file, enclosing, .enum decl⟩)

mutual

def addMessage (file : FileDecl) (enclosing : List String) :
    MessageDecl → Std.HashMap String Declared → Std.HashMap String Declared
  | ⟨name, fields, nested, enums⟩, table =>
    addMessages file (enclosing ++ [name]) nested
      (addEnums file (enclosing ++ [name]) enums
        (add table ⟨file, enclosing, .message ⟨name, fields, nested, enums⟩⟩))

def addMessages (file : FileDecl) (enclosing : List String) :
    List MessageDecl → Std.HashMap String Declared → Std.HashMap String Declared
  | [], table => table
  | decl :: rest, table => addMessages file enclosing rest (addMessage file enclosing decl table)

end

def addFile (table : Std.HashMap String Declared) (file : FileDecl) :
    Std.HashMap String Declared :=
  addMessages file [] file.messages (addEnums file [] file.enums table)

def ofFiles (files : List FileDecl) : Scope := ⟨files, files.foldl addFile ∅⟩

def find? (scope : Scope) (typeName : String) : Option Declared := scope.table[typeName]?

def find (scope : Scope) (typeName : String) : Except Error Declared :=
  match scope.find? typeName with
  | some d => .ok d
  | none => .error (.undeclared typeName)

/-! ## The table and the declarations -/

theorem addEnums_eq_foldl (file : FileDecl) (enclosing : List String) (enums : List EnumDecl)
    (table : Std.HashMap String Declared) :
    addEnums file enclosing enums table = (file.enumsIn enclosing enums).foldl add table := by
  induction enums generalizing table with
  | nil => rfl
  | cons decl rest ih => simp [addEnums, FileDecl.enumsIn, ih]

mutual

theorem addMessage_eq_foldl (file : FileDecl) :
    (decl : MessageDecl) → (enclosing : List String) → (table : Std.HashMap String Declared) →
      addMessage file enclosing decl table = (file.messageIn enclosing decl).foldl add table
  | ⟨_, _, nested, _⟩, _, _ => by
    simp [addMessage, FileDecl.messageIn, addEnums_eq_foldl, addMessages_eq_foldl file nested]

theorem addMessages_eq_foldl (file : FileDecl) :
    (decls : List MessageDecl) → (enclosing : List String) →
      (table : Std.HashMap String Declared) →
      addMessages file enclosing decls table = (file.messagesIn enclosing decls).foldl add table
  | [], _, _ => rfl
  | decl :: rest, _, _ => by
    simp [addMessages, FileDecl.messagesIn, addMessage_eq_foldl file decl,
      addMessages_eq_foldl file rest]

end

theorem addFile_eq_foldl :
    addFile = fun table file => (FileDecl.declarations file).foldl add table := by
  funext table file
  simp [addFile, FileDecl.declarations, addEnums_eq_foldl, addMessages_eq_foldl]

theorem table_ofFiles (files : List FileDecl) :
    (ofFiles files).table = (files.flatMap FileDecl.declarations).foldl add ∅ := by
  simp [ofFiles, List.foldl_flatMap, addFile_eq_foldl]

end Scope

end RustSchema
