/-
  RustSchema.Yaml.Char — the character classes of YAML 1.1 text, and its line breaks.

  Carriage return, line feed, the two together, and U+0085 are one line feed each; the line
  and paragraph separators break a line and stay what they are.
-/

import RustSchema.Text.Case

namespace RustSchema.Yaml

/-- Whether a document may hold the character as it is. -/
def isReadable (c : Char) : Bool :=
  c = '\t' || c = '\n' || c = '\r' || c = '\u0085'
    || (0x20 ≤ c.toNat && c.toNat ≤ 0x7E) || (0xA0 ≤ c.toNat && c.toNat ≤ 0xFFFD)
    || 0x10000 ≤ c.toNat

def isBreak (c : Char) : Bool :=
  c = '\n' || c = '\r' || c = '\u0085' || c = '\u2028' || c = '\u2029'

def isTabOrSpace (c : Char) : Bool := c = ' ' || c = '\t'

def isGap (c : Char) : Bool := isTabOrSpace c || isBreak c

/-- What a line break stands for in text. -/
def breakText (c : Char) : Char := if c = '\u2028' || c = '\u2029' then c else '\n'

/-- The text begins with a line break: what it stands for, and the text after it. -/
def takeBreak? : List Char → Option (Char × List Char)
  | '\r' :: '\n' :: rest => some ('\n', rest)
  | c :: rest => if isBreak c then some (breakText c, rest) else none
  | [] => none

/-- What names of nodes, tags and directives are made of. -/
def isNameChar (c : Char) : Bool :=
  Text.isDigit c || Text.isUpper c || Text.isLower c || c = '-' || c = '_'

/-- The text ends here, or goes on with a space, a tab or a line break. -/
def endsHere (cs : List Char) : Bool := cs.head?.all isGap

/-- The line that starts here is `---` or `...`, the mark between documents. -/
def atMark : List Char → Bool
  | '-' :: '-' :: '-' :: rest => endsHere rest
  | '.' :: '.' :: '.' :: rest => endsHere rest
  | _ => false

end RustSchema.Yaml
