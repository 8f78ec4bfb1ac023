/-
  RustSchema.Yaml.Resolve — the tag of plain text, by its spelling.

  Truth values, null, integers (decimal, binary, octal, hexadecimal, and base sixty), floats
  (with a point, or base sixty) and times each have their spellings; all other text is
  itself. A spelling can still stand for nothing: `0b_` has no digits, and February has no
  thirtieth.

  A tag of its own can make quoted text plain, which may end with a line feed; one of them
  does not spoil a spelling.
-/

import RustSchema.Yaml.Moment
import RustSchema.Yaml.Tag

namespace RustSchema.Yaml.Resolve

open Text (isDigit)

/-! ## Words -/

def truthWords : List String :=
  ["yes", "Yes", "YES", "no", "No", "NO", "true", "True", "TRUE", "false", "False", "FALSE",
   "on", "On", "ON", "off", "Off", "OFF"]

def nullWords : List String := ["~", "null", "Null", "NULL"]

def infinityWords : List String := [".inf", ".Inf", ".INF"]

def notNumberWords : List String := [".nan", ".NaN", ".NAN"]

/-- What only has a meaning to YAML itself. -/
def marks : List (String × Tag) :=
  [("<<", .merge), ("=", .default), ("!", .other), ("&", .other), ("*", .other)]

/-! ## Numbers -/

def isDigitOrBar (c : Char) : Bool := isDigit c || c = '_'

def isOctalOrBar (c : Char) : Bool := ('0' ≤ c && c ≤ '7') || c = '_'

def isBinaryOrBar (c : Char) : Bool := c = '0' || c = '1' || c = '_'

def isHexOrBar (c : Char) : Bool :=
  isDigitOrBar c || ('a' ≤ c && c ≤ 'f') || ('A' ≤ c && c ≤ 'F')

/-- One digit, or two of which the first is below six. -/
def isSixtieth : List Char → Bool
  | [a] => isDigit a
  | [a, b] => isDigit a && a < '6' && isDigit b
  | _ => false

/-- Pieces between colons, of which there is at least one after the first. -/
def isSexagesimal (cs : List Char) : Bool :=
  match cs.splitOn ':' with
  | first :: piece :: pieces => first.all isDigitOrBar && (piece :: pieces).all isSixtieth
  | _ => false

def isInt (cs : List Char) : Bool :=
  match (Number.unsigned cs).2 with
  | '0' :: 'b' :: d :: digits => (d :: digits).all isBinaryOrBar
  | '0' :: 'x' :: d :: digits => (d :: digits).all isHexOrBar
  | '0' :: digits => digits.all isOctalOrBar
  | d :: digits => isDigit d && (digits.all isDigitOrBar || isSexagesimal (d :: digits))
  | [] => false

/-- An exponent with a sign, or none. -/
def isExponent : List Char → Bool
  | [] => true
  | e :: sign :: d :: digits =>
    (e = 'e' || e = 'E') && (sign = '-' || sign = '+') && (d :: digits).all isDigit
  | _ => false

/-- A number with a point, before which digits may be missing unless it has a sign. -/
def isFloat (cs : List Char) : Bool :=
  let body := (Number.unsigned cs).2
  let whole := body.takeWhile (· ≠ '.')
  match body.dropWhile (· ≠ '.') with
  | [] => false
  | _ :: after =>
    let exponent := after.dropWhile isDigitOrBar
    match cs, whole with
    | '.' :: d :: _, _ => isDigit d && isExponent exponent
    | _, d :: digits =>
      isDigit d && if digits.all isDigitOrBar then isExponent exponent
        else isSexagesimal whole && exponent = []
    | _, [] => false

/-! ## Times -/

/-- A date with a time may have months and days of one digit; a date alone may not. -/
def isTime (cs : List Char) : Bool :=
  (Moment.read? cs).any fun (_, time) => time.isSome || cs.length = 10

/-! ## Text -/

/-- What plain text is. -/
def tagOf (text : String) : Tag :=
  let cs := Moment.cutLineFeed text.toList
  let word := String.ofList cs
  if text = "" || word ∈ nullWords then .null
  else if word ∈ truthWords then .bool
  else if word ∈ notNumberWords || String.ofList (Number.unsigned cs).2 ∈ infinityWords
    || isFloat cs then .float
  else if isInt cs then .int
  else if isTime cs then .time
  else (marks.lookup word).getD .text

end RustSchema.Yaml.Resolve
