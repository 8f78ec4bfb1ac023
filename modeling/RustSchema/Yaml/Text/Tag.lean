/-
  RustSchema.Yaml.Text.Tag — tags and directives, as they are written.

  A tag is a lone exclamation mark, or a name in angle brackets after one, or a handle and
  the rest of the name: `!`, `!!` and `!name!` are handles, and a directive tells what they
  stand for. Names are addresses, in which any character may be written as the bytes of its
  UTF-8, each after a percent sign.
-/

import RustSchema.Text.Digits
import RustSchema.Yaml.Char
import RustSchema.Yaml.Token

namespace RustSchema.Yaml.Tagged

/-- The text ends here, or goes on with a space or a line break. -/
def ends (cs : List Char) : Bool := cs.head?.all fun c => c = ' ' || isBreak c

def skipSpaces (cs : List Char) : List Char := cs.dropWhile (· = ' ')

/-! ## Names -/

def isUriChar (c : Char) : Bool := isNameChar c || ";/?:@&=+$,.!~*'()[]".toList.contains c

/-- The bytes that follow each other, each after a percent sign, and what follows them. -/
def escapedBytes : List Char → Option (List UInt8 × List Char)
  | '%' :: a :: b :: rest =>
    match Text.hexValue? a, Text.hexValue? b, escapedBytes rest with
    | some a, some b, some (bytes, rest) => some (UInt8.ofNat (16 * a + b) :: bytes, rest)
    | _, _, _ => none
  | '%' :: _ => none
  | cs => some ([], cs)

/-- The characters of escaped bytes, and what follows them. -/
def escaped (cs : List Char) : Except Fault (List Char × List Char) :=
  match escapedBytes cs with
  | some (bytes, rest) =>
    match String.fromUTF8? ⟨bytes.toArray⟩ with
    | some s => .ok (s.toList, rest)
    | none => .error .malformed
  | none => .error .malformed

/-- `fuel` bounds the number of characters. -/
def uriFrom : Nat → List Char → Except Fault (List Char × List Char)
  | fuel + 1, c :: rest =>
    if c = '%' then do
      let (piece, rest) ← escaped (c :: rest)
      let (more, rest) ← uriFrom fuel rest
      return (piece ++ more, rest)
    else if isUriChar c then do
      let (more, rest) ← uriFrom fuel rest
      return (c :: more, rest)
    else .ok ([], c :: rest)
  | _, cs => .ok ([], cs)

/-- A name and what follows it. -/
def uri (cs : List Char) : Except Fault (String × List Char) := do
  let (name, rest) ← uriFrom cs.length cs
  if rest.length = cs.length then throw .malformed
  return (String.ofList name, rest)

/-! ## Tags -/

/-- A handle with both of its marks, or the first alone before a space; and what follows. -/
def handle : List Char → Except Fault (String × List Char)
  | '!' :: rest =>
    if rest.head? = some ' ' then .ok ("!", rest)
    else
      let name := rest.takeWhile isNameChar
      match rest.dropWhile isNameChar with
      | '!' :: rest => .ok (String.ofList ('!' :: name ++ ['!']), rest)
      | _ => .error .malformed
  | _ => .error .malformed

/-- A tag without its handle, if it has one, and what follows the tag. A second mark before
    the tag ends makes a handle of what is before it. -/
def tagParts (cs : List Char) : Except Fault (Option String × String × List Char) :=
  match cs.drop 1 with
  | '<' :: rest => do
    let (name, rest) ← uri rest
    match rest with
    | '>' :: rest => return (none, name, rest)
    | _ => throw .malformed
  | rest =>
    if endsHere rest then .ok (none, "!", rest)
    else if (rest.takeWhile fun c => !ends [c]).contains '!' then do
      let (handle, rest) ← handle cs
      return (some handle, ← uri rest)
    else do return (some "!", ← uri rest)

/-- The tag that starts here. -/
def tag (cs : List Char) : Except Fault (Token × List Char) := do
  let (handle, suffix, rest) ← tagParts cs
  if !ends rest then throw .malformed
  return (.tag handle suffix, rest)

/-! ## Directives -/

def number (cs : List Char) : Except Fault (Nat × List Char) := do
  let digits := cs.takeWhile Text.isDigit
  if digits = [] then throw .malformed
  if longestNumber < digits.length then throw (.unvalued (.tooManyDigits digits.length))
  return (Text.numberIn 10 digits, cs.dropWhile Text.isDigit)

/-- A version: two numbers with a point between them, of which the first one counts. -/
def version (cs : List Char) : Except Fault (Directive × List Char) := do
  let (major, rest) ← number cs
  match rest with
  | '.' :: rest =>
    let (_, rest) ← number rest
    return (.version major, rest)
  | _ => throw .malformed

/-- A handle and what it stands for. -/
def handleMeaning (cs : List Char) : Except Fault (Directive × List Char) := do
  let (handle, rest) ← handle cs
  if rest.head? ≠ some ' ' then throw .malformed
  let (lead, rest) ← uri (skipSpaces rest)
  return (.handle handle lead, rest)

/-- The rest of a line, which may only hold a comment. -/
def restOfLine (cs : List Char) : Except Fault (List Char) :=
  let rest := skipSpaces cs
  let rest := if rest.head? = some '#' then rest.dropWhile (!isBreak ·) else rest
  match rest, takeBreak? rest with
  | [], _ => .ok []
  | _, some (_, rest) => .ok rest
  | _, none => .error .malformed

/-- The directive after a percent sign, with its line. One with another name says nothing. -/
def directive (cs : List Char) : Except Fault (Directive × List Char) := do
  let name := cs.takeWhile isNameChar
  let rest := cs.dropWhile isNameChar
  if name = [] || !ends rest then throw .malformed
  let (directive, rest) ←
    if String.ofList name = "YAML" then version (skipSpaces rest)
    else if String.ofList name = "TAG" then handleMeaning (skipSpaces rest)
    else pure (Directive.other, rest.dropWhile (!isBreak ·))
  if !ends rest then throw .malformed
  return (directive, ← restOfLine rest)

end RustSchema.Yaml.Tagged
