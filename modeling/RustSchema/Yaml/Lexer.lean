/-
  RustSchema.Yaml.Lexer — YAML text to tokens.

  Three things make YAML's tokens depend on what came before. Indentation: the columns of
  the open block collections are a stack, and a token further left closes collections.
  Brackets: inside them indentation means nothing, and commas and brackets end unquoted
  text. Keys: only the colon after a key tells that it was one, so the place of whatever may
  be a key is remembered (`KeyPlace`), one for each level of brackets, until the colon comes
  or can no longer come: a key has to end on its line and within 1024 characters.
-/

import RustSchema.Yaml.Text.Block
import RustSchema.Yaml.Text.Quoted
import RustSchema.Yaml.Text.Tag
import RustSchema.Yaml.Text.Unquoted
import RustSchema.Yaml.Token

namespace RustSchema.Yaml

/-! ## The cursor -/

structure Cursor where
  rest : List Char
  offset : Nat := 0
  line : Nat := 0
  column : Nat := 0

namespace Cursor

/-- A line break leads to the next line; a byte order mark takes no column. -/
def step (cursor : Cursor) : Cursor :=
  match cursor.rest with
  | [] => cursor
  | c :: rest =>
    if isBreak c && !(c = '\r' && rest.head? = some '\n') then
      ⟨rest, cursor.offset + 1, cursor.line + 1, 0⟩
    else
      ⟨rest, cursor.offset + 1, cursor.line, cursor.column + if c = '\ufeff' then 0 else 1⟩

def skip : Nat → Cursor → Cursor
  | 0, cursor => cursor
  | n + 1, cursor => skip n cursor.step

/-- Goes on to where `rest`, the end of the text from there, begins. -/
def goTo (cursor : Cursor) (rest : List Char) : Cursor :=
  cursor.skip (cursor.rest.length - rest.length)

end Cursor

/-- The text after spaces, comments and line breaks, and whether a line was broken. -/
def skipToToken (comment : Bool) : List Char → Bool × List Char
  | [] => (false, [])
  | c :: rest =>
    if isBreak c then (true, (skipToToken false rest).2)
    else if comment then skipToToken true rest
    else if c = ' ' then skipToToken false rest
    else if c = '#' then skipToToken true rest
    else (false, c :: rest)

/-! ## The state -/

/-- The place of what may turn out to be a key, before the token numbered `token`. It has to
    be one when it stands at the indentation of an open block collection. -/
structure KeyPlace where
  token : Nat
  needed : Bool
  offset : Nat
  line : Nat
  column : Nat

structure Lexer where
  cursor : Cursor
  tokens : Array Token := #[]
  /-- The columns of the open block collections, the innermost first. -/
  columns : List Nat := []
  /-- The place of a key at this level of brackets. -/
  key : Option KeyPlace := none
  /-- The places of keys at the levels around it, the innermost first. -/
  outer : List (Option KeyPlace) := []
  keyAllowed : Bool := true

namespace Lexer

def inFlow (s : Lexer) : Bool := !s.outer.isEmpty

/-- The least column that is inside the innermost block collection. -/
def floor (s : Lexer) : Nat := s.columns.head?.elim 0 (· + 1)

def emit (s : Lexer) (token : Token) : Lexer := { s with tokens := s.tokens.push token }

def skip (s : Lexer) (n : Nat) : Lexer := { s with cursor := s.cursor.skip n }

def goTo (s : Lexer) (rest : List Char) : Lexer := { s with cursor := s.cursor.goTo rest }

def allowKey (s : Lexer) (allowed : Bool) : Lexer := { s with keyAllowed := allowed }

/-! ### Indentation -/

/-- Closes the block collections further right than `column`. -/
def closeTo (s : Lexer) (column : Nat) : Lexer :=
  let closed := s.columns.takeWhile (column < ·)
  { s with
    columns := s.columns.drop closed.length
    tokens := s.tokens ++ closed.map fun _ => Token.blockEnd }

def closeAll (s : Lexer) : Lexer :=
  { s with columns := [], tokens := s.tokens ++ s.columns.map fun _ => Token.blockEnd }

/-- Opens a block collection at `column`, unless one is open there; its start goes before
    the token numbered `place`. -/
def openAt (s : Lexer) (column place : Nat) (start : Token) : Lexer :=
  if s.floor ≤ column then
    { s with columns := column :: s.columns, tokens := s.tokens.insertIdxIfInBounds place start }
  else s

/-! ### Keys -/

/-- A place where a key was needed cannot be given up. -/
def dropKey (s : Lexer) : Except Fault Lexer :=
  match s.key with
  | some place => if place.needed then .error .malformed else .ok { s with key := none }
  | none => .ok s

/-- The colon can no longer come: the line is over, or the key is too long. -/
def stale (cursor : Cursor) (place : KeyPlace) : Bool :=
  place.line ≠ cursor.line || place.offset + 1024 < cursor.offset

def freshOrNone (cursor : Cursor) : Option KeyPlace → Except Fault (Option KeyPlace)
  | some place =>
    if stale cursor place then
      if place.needed then .error .malformed else .ok none
    else .ok (some place)
  | none => .ok none

def dropStaleKeys (s : Lexer) : Except Fault Lexer := do
  return { s with
    key := ← freshOrNone s.cursor s.key
    outer := ← s.outer.mapM (freshOrNone s.cursor) }

/-- Remembers this place, if a key may start here. -/
def markKey (s : Lexer) : Except Fault Lexer := do
  if s.keyAllowed then
    let s ← s.dropKey
    let needed := !s.inFlow && s.floor = s.cursor.column + 1
    return { s with
      key := some ⟨s.tokens.size, needed, s.cursor.offset, s.cursor.line, s.cursor.column⟩ }
  else return s

/-! ### Tokens -/

def documentMark (s : Lexer) (token : Token) : Except Fault Lexer := do
  return (((← s.closeAll.dropKey).allowKey false).skip 3).emit token

/-- A directive ends what is open, as the mark of a document does. -/
def directive (s : Lexer) : Except Fault Lexer := do
  let s := (← s.closeAll.dropKey).allowKey false
  let (directive, rest) ← Tagged.directive (s.cursor.rest.drop 1)
  return (s.goTo rest).emit (.directive directive)

def openFlow (s : Lexer) (token : Token) : Except Fault Lexer := do
  let s ← s.markKey
  return (({ s with key := none, outer := s.key :: s.outer }.allowKey true).skip 1).emit token

/-- A closing bracket needs an open level, of whichever sort: the parser tells which. -/
def closeFlow (s : Lexer) (token : Token) : Except Fault Lexer := do
  let s ← s.dropKey
  match s.outer with
  | key :: outer => return (({ s with key, outer }.allowKey false).skip 1).emit token
  | [] => throw .malformed

def flowEntry (s : Lexer) : Except Fault Lexer := do
  return (((← s.dropKey).allowKey true).skip 1).emit .flowEntry

/-- The mark of an entry or a key: outside brackets it needs a place where a key could be,
    and opens a block collection of its sort. -/
def blockMark (s : Lexer) (start : Token) : Except Fault Lexer :=
  if s.inFlow then .ok s
  else if s.keyAllowed then .ok (s.openAt s.cursor.column s.tokens.size start)
  else .error .malformed

def blockEntry (s : Lexer) : Except Fault Lexer := do
  let s ← s.blockMark .blockSequenceStart
  return (((← s.dropKey).allowKey true).skip 1).emit .blockEntry

def explicitKey (s : Lexer) : Except Fault Lexer := do
  let s ← s.blockMark .blockMappingStart
  return (((← s.dropKey).allowKey !s.inFlow).skip 1).emit .key

/-- A colon makes a key of what is at the remembered place, and that may be what opens the
    mapping. Without such a place it follows a key with a mark. -/
def value (s : Lexer) : Except Fault Lexer := do
  match s.key with
  | some place =>
    let s := { s with
      key := none, tokens := s.tokens.insertIdxIfInBounds place.token .key, keyAllowed := false }
    let s := if s.inFlow then s else s.openAt place.column place.token .blockMappingStart
    return (s.skip 1).emit .value
  | none =>
    let s ← s.blockMark .blockMappingStart
    return ((s.allowKey !s.inFlow).skip 1).emit .value

/-- The name after `*` or `&`. -/
def name (s : Lexer) (token : String → Token) : Except Fault Lexer := do
  let s ← s.markKey
  let after := s.cursor.rest.drop 1
  let word := after.takeWhile isNameChar
  let rest := after.dropWhile isNameChar
  if word = [] || !rest.head?.all fun c => isGap c || "?:,]\x7d%@\x60".toList.contains c then
    throw .malformed
  return ((s.allowKey false).goTo rest).emit (token (String.ofList word))

def tag (s : Lexer) : Except Fault Lexer := do
  let s ← s.markKey
  let (token, rest) ← Tagged.tag s.cursor.rest
  return ((s.allowKey false).goTo rest).emit token

def blockText (s : Lexer) (folded : Bool) : Except Fault Lexer := do
  let s ← (s.allowKey true).dropKey
  match Block.read? folded s.floor (s.cursor.rest.drop 1) with
  | some (text, rest) => return (s.goTo rest).emit (.scalar (String.ofList text) false)
  | none => throw .malformed

def quotedText (s : Lexer) (double : Bool) : Except Fault Lexer := do
  let s ← s.markKey
  let (text, rest) ← Quoted.read double (s.cursor.rest.drop 1)
  return ((s.allowKey false).goTo rest).emit (.scalar (String.ofList text) false)

def unquotedText (s : Lexer) : Except Fault Lexer := do
  let s ← s.markKey
  let result := Unquoted.read s.inFlow s.floor s.cursor.rest
  return ((s.allowKey result.atLineStart).goTo result.rest).emit
    (.scalar (String.ofList result.text) true)

/-! ### The next token -/

/-- Passes over what separates tokens; outside brackets a key may start a new line. -/
def toToken (s : Lexer) : Except Fault Lexer := do
  let s := if s.cursor.offset = 0 && s.cursor.rest.head? = some '\ufeff' then s.skip 1 else s
  let (broken, rest) := skipToToken false s.cursor.rest
  let s ← ((s.allowKey (s.keyAllowed || (broken && !s.inFlow))).goTo rest).dropStaleKeys
  return if s.inFlow then s else s.closeTo s.cursor.column

/-- Reads the token that starts here. -/
def token (s : Lexer) : Except Fault Lexer :=
  let cs := s.cursor.rest
  let lineStart := s.cursor.column = 0
  match cs with
  | [] => .ok s
  | c :: rest =>
    if lineStart && c = '%' then s.directive
    else if lineStart && c = '-' && atMark cs then s.documentMark .documentStart
    else if lineStart && c = '.' && atMark cs then s.documentMark .documentEnd
    else if c = '[' then s.openFlow .flowSequenceStart
    else if c = '\x7b' then s.openFlow .flowMappingStart
    else if c = ']' then s.closeFlow .flowSequenceEnd
    else if c = '\x7d' then s.closeFlow .flowMappingEnd
    else if c = ',' then s.flowEntry
    else if c = '-' && endsHere rest then s.blockEntry
    else if c = '?' && (s.inFlow || endsHere rest) then s.explicitKey
    else if c = ':' && (s.inFlow || endsHere rest) then s.value
    else if c = '*' then s.name .alias
    else if c = '&' then s.name .anchor
    else if c = '!' then s.tag
    else if c = '|' && !s.inFlow then s.blockText false
    else if c = '>' && !s.inFlow then s.blockText true
    else if c = '\'' then s.quotedText false
    else if c = '"' then s.quotedText true
    else if Unquoted.starts s.inFlow cs then s.unquotedText
    else .error .malformed

/-- One token more. At the end of the text, closes what is open; then that was all. -/
def advance (s : Lexer) : Except Fault (Bool × Lexer) := do
  let s ← s.toToken
  if s.cursor.rest = [] then return (true, ← s.closeAll.dropKey)
  else return (false, ← s.token)

/-- The tokens before every place where a key may still turn out to be. -/
def settled (s : Lexer) : List Token :=
  let places := (s.key :: s.outer).filterMap fun key => key.filter (!stale s.cursor ·)
  s.tokens.toList.take (places.foldl (fun n place => min n place.token) s.tokens.size)

/-- Every token but the last takes a character, so the length of the text is `fuel` enough. -/
def run : Nat → Lexer → Tokens
  | 0, s => ⟨s.settled, some .malformed⟩
  | fuel + 1, s =>
    match s.advance with
    | .ok (false, s) => run fuel s
    | .ok (true, s) => ⟨s.tokens.toList, none⟩
    | .error fault => ⟨s.settled, some fault⟩

end Lexer

/-- The tokens of a text; one with a character that no document may hold has none. -/
def Tokens.ofText (text : String) : Tokens :=
  let cs := text.toList
  if cs.all isReadable then Lexer.run (cs.length + 1) { cursor := { rest := cs } }
  else ⟨[], some .malformed⟩

end RustSchema.Yaml
