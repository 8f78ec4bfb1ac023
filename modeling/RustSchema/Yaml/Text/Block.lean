/-
  RustSchema.Yaml.Text.Block — text as an indented block, behind `|` or `>`.

  The first line with text sets the indentation, unless the header gives it. Behind `>` the
  break between two lines that both start with text is folded. The header also says what
  becomes of the line breaks at the end: all are kept, one is, or none.
-/

import RustSchema.Text.Case
import RustSchema.Yaml.Char

namespace RustSchema.Yaml.Block

inductive Chomp where
  | strip
  | clip
  | keep
  deriving DecidableEq, Repr

structure Header where
  chomp : Chomp
  /-- The indentation, counted from that of the block's surroundings. -/
  indentation : Option Nat
  deriving DecidableEq, Repr

/-! ## The header -/

def chomp? : List Char → Option (Chomp × List Char)
  | '+' :: rest => some (.keep, rest)
  | '-' :: rest => some (.strip, rest)
  | _ => none

def digit? : List Char → Option (Nat × List Char)
  | c :: rest => if Text.isDigit c then some (c.toNat - '0'.toNat, rest) else none
  | [] => none

/-- The two indicators, in either order; an indentation of zero is no indicator. -/
def indicators (cs : List Char) : Option (Header × List Char) :=
  let (header, rest) : Header × List Char :=
    match chomp? cs, digit? cs with
    | some (chomp, rest), _ =>
      match digit? rest with
      | some (n, rest) => (⟨chomp, some n⟩, rest)
      | none => (⟨chomp, none⟩, rest)
    | none, some (n, rest) =>
      match chomp? rest with
      | some (chomp, rest) => (⟨chomp, some n⟩, rest)
      | none => (⟨.clip, some n⟩, rest)
    | none, none => (⟨.clip, none⟩, cs)
  if header.indentation = some 0 || !rest.head?.all fun c => c = ' ' || isBreak c then none
  else some (header, rest)

/-- The header to the end of its line, which may hold a comment. -/
def header? (cs : List Char) : Option (Header × List Char) := do
  let (header, rest) ← indicators cs
  let rest := rest.dropWhile (· = ' ')
  let rest := if rest.head? = some '#' then rest.dropWhile (!isBreak ·) else rest
  match rest with
  | [] => some (header, [])
  | _ => (takeBreak? rest).map fun (_, after) => (header, after)

/-! ## Lines -/

/-- Empty lines; the indentation of the line after them; and the rest of that line. -/
structure Lead where
  breaks : List Char
  column : Nat
  rest : List Char

/-- Passes over spaces and empty lines, and gives the widest run of spaces as well. -/
def detect (column widest : Nat) : List Char → Nat × Lead
  | ' ' :: rest => detect (column + 1) (max widest (column + 1)) rest
  | '\r' :: '\n' :: rest =>
    let (widest, lead) := detect 0 widest rest
    (widest, { lead with breaks := '\n' :: lead.breaks })
  | c :: rest =>
    if isBreak c then
      let (widest, lead) := detect 0 widest rest
      (widest, { lead with breaks := breakText c :: lead.breaks })
    else (widest, ⟨[], column, c :: rest⟩)
  | [] => (widest, ⟨[], column, []⟩)

/-- Passes over empty lines, and over no more than `indent` spaces of a line. -/
def lead (indent column : Nat) : List Char → Lead
  | ' ' :: rest =>
    if column < indent then lead indent (column + 1) rest else ⟨[], column, ' ' :: rest⟩
  | '\r' :: '\n' :: rest =>
    let next := lead indent 0 rest
    { next with breaks := '\n' :: next.breaks }
  | c :: rest =>
    if isBreak c then
      let next := lead indent 0 rest
      { next with breaks := breakText c :: next.breaks }
    else ⟨[], column, c :: rest⟩
  | [] => ⟨[], column, []⟩

def startsWithBlank (cs : List Char) : Bool := cs.head?.any isTabOrSpace

/-- The lines of the block. `fuel` bounds their number; `ending` is the break that ended the
    line before. -/
def lines (folded : Bool) (chomp : Chomp) (indent : Nat) :
    Nat → List Char → Lead → List Char × List Char
  | 0, _, here => ([], here.rest)
  | fuel + 1, ending, here =>
    if here.column = indent && here.rest ≠ [] then
      let line := here.rest.takeWhile (!isBreak ·)
      let (broken, rest) : List Char × List Char :=
        match takeBreak? (here.rest.dropWhile (!isBreak ·)) with
        | some (b, rest) => ([b], rest)
        | none => ([], [])
      let next := lead indent 0 rest
      let join : List Char :=
        if next.column = indent && next.rest ≠ [] then
          if folded && broken = ['\n'] && !startsWithBlank here.rest
              && !startsWithBlank next.rest then
            if next.breaks = [] then [' '] else []
          else broken
        else []
      let (text, left) := lines folded chomp indent fuel broken next
      (here.breaks ++ line ++ join ++ text, left)
    else
      ((if chomp = .strip then [] else ending) ++ (if chomp = .keep then here.breaks else []),
        here.rest)

/-- The text after `|` or `>` and what follows the block. `floor` is the least column of
    what belongs inside the block's surroundings. -/
def read? (folded : Bool) (floor : Nat) (cs : List Char) : Option (List Char × List Char) := do
  let (header, body) ← header? cs
  let least := max 1 floor
  let (indent, start) :=
    match header.indentation with
    | some n => (least + n - 1, lead (least + n - 1) 0 body)
    | none =>
      let (widest, start) := detect 0 0 body
      (max least widest, start)
  return lines folded header.chomp indent (body.length + 1) [] start

end RustSchema.Yaml.Block
