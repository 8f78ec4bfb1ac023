/-
  RustSchema.Ident — identifiers of generated code, and the names of generated modules.

  A keyword is written as a raw identifier (`r#type`); the four that cannot be raw get a
  trailing underscore. The module of a message is its name in snake case, the module of a
  schema file its base name with everything but ASCII letters, digits and underscores
  replaced. No escaped name, and so no module, is ever a keyword.
-/

import RustSchema.Text.Case

namespace RustSchema.Ident

/-! ## Keywords -/

/-- The keywords that can be raw identifiers. -/
def keywords : List String :=
  ["abstract", "as", "async", "await", "become", "box", "break", "const", "continue",
   "do", "dyn", "else", "enum", "extern", "false", "final", "fn", "for", "if", "impl",
   "in", "let", "loop", "macro", "match", "mod", "move", "mut", "override", "priv",
   "pub", "ref", "return", "static", "struct", "trait", "true", "try", "type", "typeof",
   "unsafe", "unsized", "use", "virtual", "where", "while", "yield"]

/-- The keywords that cannot be raw identifiers. -/
def pathKeywords : List String := ["crate", "self", "Self", "super"]

def escape (name : String) : String :=
  if name ∈ pathKeywords then name ++ "_"
  else if name ∈ keywords then "r#" ++ name
  else name

/-! ## Snake case -/

open Text

/-- A run of capitals with the mark that parts it from the word its last one begins. -/
def markAcronym (run after : List Char) : List Char :=
  if 2 ≤ run.length && after.head?.any isLower then
    run.dropLast ++ '_' :: run.drop (run.length - 1)
  else run

/-- Parts each run of two or more capitals from the word that begins with its last one:
    `HTTPRequest` becomes `HTTP_Request`. -/
def partAcronyms : List Char → List Char
  | [] => []
  | c :: rest =>
    if isUpper c then
      let run := rest.takeWhile isUpper
      let after := rest.dropWhile isUpper
      markAcronym (c :: run) after ++ partAcronyms after
    else c :: partAcronyms rest
termination_by cs => cs.length
decreasing_by
  · exact Nat.lt_succ_of_le (List.dropWhile_suffix isUpper).length_le
  · exact Nat.lt_succ_self _

/-- Parts a capital from the small letter or digit before it: `fooBar` becomes `foo_Bar`. -/
def partWords : List Char → List Char
  | a :: b :: rest =>
    if (isLower a || isDigit a) && isUpper b then a :: '_' :: b :: partWords rest
    else a :: partWords (b :: rest)
  | cs => cs

def snakeCase (name : String) : String :=
  String.ofList (lower (partWords (partAcronyms name.toList)))

/-! ## Modules -/

/-- The module that holds the nested types of a message. -/
def messageModule (message : String) : String := escape (snakeCase message)

def isSeparator (c : Char) : Bool := c = '/' || c = '\\'

/-- What follows the last slash or backslash. -/
def lastComponent (path : String) : String :=
  String.ofList (path.toList.reverse.takeWhile (!isSeparator ·)).reverse

def extension : List Char := ['.', 'p', 'r', 'o', 't', 'o']

/-- The base name without one `.proto` at its end. -/
def stem (base : List Char) : List Char :=
  if extension.isSuffixOf base then base.take (base.length - extension.length) else base

def isWordChar (c : Char) : Bool := isDigit c || isUpper c || isLower c || c = '_'

/-- The module generated for a schema file: `foo/bar-baz.proto` becomes `bar_baz`. -/
def fileModule (path : String) : String :=
  let cs := (stem (lastComponent path).toList).map fun c => if isWordChar c then c else '_'
  escape (String.ofList (if cs.head?.all isDigit then '_' :: cs else cs))

/-- Upper-cases the first character only. -/
def capitalize (text : String) : String := String.ofList (Text.capitalize text.toList)

end RustSchema.Ident
