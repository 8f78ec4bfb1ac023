/-
  RustSchema.Yaml.Text.Unquoted — text without quotes (a plain scalar).

  Such text goes on until a comment, a colon before a gap, a mark between documents, a line
  that is indented too little, or, inside brackets, a character of the brackets' own. Its
  inner line breaks are folded: a single one is a space, and of several the first is lost.
-/

import RustSchema.Yaml.Char

namespace RustSchema.Yaml.Unquoted

/-- Unquoted text may start here: with no indicator, or with a dash, and outside brackets
    with a question mark or colon too, right before a character that is no gap. -/
def starts (inFlow : Bool) : List Char → Bool
  | [] => false
  | c :: rest =>
    (!isGap c && !"-?:,[]\x7b\x7d#&*!|>'\"%@\x60".toList.contains c)
      || (!endsHere rest && (c = '-' || (!inFlow && (c = '?' || c = ':'))))

/-- The character `c`, before `rest`, is not part of the text. -/
def stops (inFlow : Bool) (c : Char) (rest : List Char) : Bool :=
  isGap c
    || (c = ':' && (endsHere rest
      || (inFlow && rest.head?.any fun d => ",[]\x7b\x7d".toList.contains d)))
    || (inFlow && ",?[]\x7b\x7d".toList.contains c)

/-- The characters up to the next stop, and what follows them. -/
def word (inFlow : Bool) : List Char → List Char × List Char
  | [] => ([], [])
  | c :: rest =>
    if stops inFlow c rest then ([], c :: rest)
    else
      let (taken, left) := word inFlow rest
      (c :: taken, left)

/-! ## Between two words -/

/-- What stands between two words of the text. -/
inductive Gap where
  | none
  | inLine (blanks rest : List Char)
  /-- Line breaks, already folded; the next line starts after `column` spaces. -/
  | lines (folded : List Char) (column : Nat) (rest : List Char)
  /-- A mark between documents stands at the start of `rest`. -/
  | mark (rest : List Char)

/-- Empty lines, the indentation of the line after them, and whether a mark ends them. -/
def emptyLines (column : Nat) : List Char → List Char × Nat × Bool × List Char
  | ' ' :: rest => emptyLines (column + 1) rest
  | '\r' :: '\n' :: rest =>
    if atMark rest then ([], 0, true, rest)
    else
      let (breaks, after) := emptyLines 0 rest
      ('\n' :: breaks, after)
  | c :: rest =>
    if isBreak c then
      if atMark rest then ([], 0, true, rest)
      else
        let (breaks, after) := emptyLines 0 rest
        (breakText c :: breaks, after)
    else ([], column, false, c :: rest)
  | [] => ([], column, false, [])

def gap (cs : List Char) : Gap :=
  let blanks := cs.takeWhile (· = ' ')
  let rest := cs.dropWhile (· = ' ')
  match takeBreak? rest with
  | some (first, rest) =>
    if atMark rest then .mark rest
    else
      let (breaks, column, marked, rest) := emptyLines 0 rest
      if marked then .mark rest
      else
        .lines (if first ≠ '\n' then first :: breaks else if breaks = [] then [' '] else breaks)
          column rest
  | none => if blanks = [] then .none else .inLine blanks rest

/-! ## The whole text -/

/-- The text read; whether it ended at the start of a line; what follows. -/
structure Result where
  text : List Char
  atLineStart : Bool
  rest : List Char

/-- `fuel` bounds the number of words. -/
def words (inFlow : Bool) (indent : Nat) : Nat → Bool → List Char → Result
  | 0, fresh, cs => ⟨[], fresh, cs⟩
  | fuel + 1, fresh, cs =>
    let (taken, rest) := word inFlow cs
    if cs.head? = some '#' || taken = [] then ⟨[], fresh, cs⟩
    else
      let more (between : List Char) (fresh : Bool) (rest : List Char) : Result :=
        let next := words inFlow indent fuel fresh rest
        if next.text = [] then ⟨taken, next.atLineStart, next.rest⟩
        else ⟨taken ++ between ++ next.text, next.atLineStart, next.rest⟩
      match gap rest with
      | .none => ⟨taken, false, rest⟩
      | .mark rest => ⟨taken, true, rest⟩
      | .inLine blanks rest => more blanks false rest
      | .lines folded column rest =>
        if !inFlow && column < indent then ⟨taken, true, rest⟩ else more folded true rest

def read (inFlow : Bool) (indent : Nat) (cs : List Char) : Result :=
  words inFlow indent cs.length false cs

end RustSchema.Yaml.Unquoted
