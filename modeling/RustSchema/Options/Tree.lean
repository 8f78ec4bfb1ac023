/-
  RustSchema.Options.Tree — options from a file of a directory tree.

  Paths are cleaned before use: empty and `.` components are dropped, and `..` is kept. The
  bytes of a file have to be UTF-8, and each of its line ends is read as a line feed.
-/

import RustSchema.Options.Read

namespace RustSchema

/-- What a directory holds under one name. -/
inductive Tree where
  | file (bytes : List UInt8)
  | directory (entries : List (String × Tree))
  deriving Inhabited

namespace Tree

def empty : Tree := .directory []

/-! ## Paths -/

/-- The components of a path between slashes. -/
def splitSlashes : List Char → List (List Char)
  | [] => [[]]
  | '/' :: rest => [] :: splitSlashes rest
  | c :: rest => (splitSlashes rest).modifyHead (c :: ·)

/-- The components of a path that lead somewhere. -/
def components (path : String) : List String :=
  ((splitSlashes path.toList).map String.ofList).filter fun part => part ≠ "" ∧ part ≠ "."

/-- The mark of a path from the root; two slashes, but no more, may mean another root. -/
def rootMark : List Char → String
  | ['/', '/'] => "//"
  | '/' :: '/' :: c :: _ => if c = '/' then "/" else "//"
  | '/' :: _ => "/"
  | _ => ""

/-- The cleaned path; a path that leads nowhere is `.`. -/
def cleanPath (path : String) : String :=
  let cleaned := rootMark path.toList ++ "/".intercalate (components path)
  if cleaned = "" then "." else cleaned

/-! ## Building -/

/-- A directory that is made anew where one is already there keeps what it holds. -/
def replacing : Tree → Tree → Tree
  | .directory [], .directory entries => .directory entries
  | new, _ => new

/-- Puts a tree at the end of a way, making the directories that lead there. -/
def put (new : Tree) : List String → Tree → Tree
  | [], old => new.replacing old
  | name :: way, .directory entries =>
    let inner := (entries.lookup name).getD empty
    .directory (entries.filter (·.1 ≠ name) ++ [(name, put new way inner)])
  | name :: way, .file _ => .directory [(name, put new way empty)]

/-- The way without its turns back, and the directories where it turns. `passed` is the way
    so far. -/
def straighten (passed : List String) : List String → List (List String) × List String
  | [] => ([], passed)
  | ".." :: way =>
    let (turns, straight) := straighten passed.dropLast way
    (passed :: turns, straight)
  | name :: way => straighten (passed ++ [name]) way

/-- Puts a tree where a path leads; the directories where the path turns back are made too. -/
def putAt (tree : Tree) (path : String) (new : Tree) : Tree :=
  let (turns, straight) := straighten [] (components path)
  put new straight (turns.foldl (fun tree turn => put empty turn tree) tree)

/-- A tree of files and directories given by their paths. -/
def ofPaths (paths : List (String × Tree)) : Tree :=
  paths.foldl (fun tree (path, new) => putAt tree path new) empty

/-! ## Finding -/

/-- The longest name a component may have, in bytes of UTF-8. -/
def longestName : Nat := 255

/-- The longest path that can be followed, in bytes of UTF-8. -/
def longestPath : Nat := 4095

/-- Follows a way. `above` holds the directories around `here`, the innermost first; above
    the root nothing is known. -/
def follow (path : String) : List String → List Tree → Tree → Except OptionsError Tree
  | [], _, here => .ok here
  | name :: way, above, here =>
    match here with
    | .file _ => .error (.unreadable (.notADirectory path))
    | .directory entries =>
      if name = ".." then
        match above with
        | outer :: above => follow path way above outer
        | [] => follow path way [] empty
      else if longestName < name.utf8ByteSize then .error (.unreadable (.nameTooLong path))
      else
        match entries.lookup name with
        | some inner => follow path way (here :: above) inner
        | none => .error (.fileNotFound path)

/-! ## Reading -/

/-- Line ends as line feeds. -/
def lineFeeds : List Char → List Char
  | '\r' :: '\n' :: rest => '\n' :: lineFeeds rest
  | '\r' :: rest => '\n' :: lineFeeds rest
  | c :: rest => c :: lineFeeds rest
  | [] => []

/-- The text of the file at a cleaned path. The tree lies somewhere below the root, which
    is a directory of which nothing else is known. -/
def text (tree : Tree) (path : String) : Except OptionsError String := do
  if path.toList.contains '\x00' then throw .nulInPath
  if longestPath < path.utf8ByteSize then throw (.unreadable (.nameTooLong path))
  let start := if path.toList.head? = some '/' then empty else tree
  match ← follow path (components path) [] start with
  | .directory _ => throw (.unreadable (.isDirectory path))
  | .file bytes =>
    match String.fromUTF8? ⟨bytes.toArray⟩ with
    | some s => return String.ofList (lineFeeds s.toList)
    | none => throw .notUtf8

end Tree

/-- The options that the file at a path gives. -/
def Options.ofFile (tree : Tree) (path : String) : Traced OptionsError Options := do
  let path := Tree.cleanPath path
  let text ← tree.text path
  Options.ofText path text

end RustSchema
