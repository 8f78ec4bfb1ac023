/-
  RustSchema.Yaml.Text.Quoted — text in single or double quotes.

  In single quotes a quote is written twice and nothing else is special; in double quotes a
  backslash begins an escape. Line breaks are folded as in unquoted text, and the blanks
  around them are lost; a backslash before one removes it.
-/

import RustSchema.Text.Digits
import RustSchema.Yaml.Char
import RustSchema.Yaml.Fault

namespace RustSchema.Yaml.Quoted

/-- What an escape of one character stands for. -/
def escapes : List (Char × Char) :=
  [('0', '\x00'), ('a', '\x07'), ('b', '\x08'), ('t', '\t'), ('\t', '\t'), ('n', '\n'),
   ('v', '\x0b'), ('f', '\x0c'), ('r', '\r'), ('e', '\x1b'), (' ', ' '), ('"', '"'),
   ('\\', '\\'), ('/', '/'), ('N', '\u0085'), ('_', '\u00a0'), ('L', '\u2028'),
   ('P', '\u2029')]

/-- How many hexadecimal digits follow the letter of an escape. -/
def hexWidth? (c : Char) : Option Nat :=
  if c = 'x' then some 2 else if c = 'u' then some 4 else if c = 'U' then some 8 else none

/-- The number of `width` hexadecimal digits, and what follows them. -/
def hexNumber? : Nat → Nat → List Char → Option (Nat × List Char)
  | 0, n, cs => some (n, cs)
  | width + 1, n, c :: rest => (Text.hexValue? c).bind fun d => hexNumber? width (16 * n + d) rest
  | _ + 1, _, [] => none

/-- A code point written as an escape. Half of a surrogate pair is no character and gives
    the replacement character. -/
def charOfCode (n : Nat) : Except Fault Char :=
  if n < 0x110000 then .ok (if 0xD800 ≤ n && n < 0xE000 then '\ufffd' else Char.ofNat n)
  else .error (.unvalued (if n < 0x80000000 then .codePoint else .wideCodePoint))

/-! ## Line breaks -/

/-- Further line breaks with the blanks before them. Quoted text does not go on past a mark
    between documents. -/
def emptyLines : Nat → List Char → Except Fault (List Char × List Char)
  | 0, _ => .error .malformed
  | fuel + 1, cs =>
    if atMark cs then .error .malformed
    else
      let cs := cs.dropWhile isTabOrSpace
      match takeBreak? cs with
      | some (b, rest) => do
        let (breaks, rest) ← emptyLines fuel rest
        return (b :: breaks, rest)
      | none => .ok ([], cs)

/-- Blanks, or folded line breaks. -/
def gap (cs : List Char) : Except Fault (List Char × List Char) :=
  let blanks := cs.takeWhile isTabOrSpace
  let rest := cs.dropWhile isTabOrSpace
  match takeBreak? rest with
  | some (first, rest) => do
    let (breaks, rest) ← emptyLines (rest.length + 1) rest
    return (if first ≠ '\n' then first :: breaks else if breaks = [] then [' '] else breaks, rest)
  | none => .ok (blanks, rest)

/-! ## The whole text -/

/-- What the escape after a backslash stands for. -/
def escape : List Char → Except Fault (List Char × List Char)
  | [] => .error .malformed
  | c :: rest =>
    match escapes.lookup c, hexWidth? c, takeBreak? (c :: rest) with
    | some d, _, _ => .ok ([d], rest)
    | none, some width, _ =>
      match hexNumber? width 0 rest with
      | some (n, rest) => (charOfCode n).map fun d => ([d], rest)
      | none => .error .malformed
    | none, none, some (_, rest) => emptyLines (rest.length + 1) rest
    | none, none, none => .error .malformed

/-- The text after the opening quote, and what follows the closing one. -/
def body (double : Bool) : Nat → List Char → Except Fault (List Char × List Char)
  | 0, _ => .error .malformed
  | _ + 1, [] => .error .malformed
  | fuel + 1, c :: rest =>
    let after (piece : List Char × List Char) : Except Fault (List Char × List Char) := do
      let (text, left) ← body double fuel piece.2
      return (piece.1 ++ text, left)
    if c = '\'' && !double then
      match rest with
      | '\'' :: rest => after (['\''], rest)
      | _ => .ok ([], rest)
    else if c = '"' && double then .ok ([], rest)
    else if c = '\\' && double then do after (← escape rest)
    else if isGap c then do after (← gap (c :: rest))
    else after ([c], rest)

def read (double : Bool) (cs : List Char) : Except Fault (List Char × List Char) :=
  body double (cs.length + 1) cs

end RustSchema.Yaml.Quoted
