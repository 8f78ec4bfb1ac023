/-
  RustSchema.Plain.Scalar — single values read from plain data, leniently where a value of
  another kind says the same thing: `1` or `"yes"` for true, `8.0` for 8, `" 1_000.0 "` for
  1000. Integers beyond 64 bits are refused wherever a number stands for something else.
-/

import RustSchema.Plain
import RustSchema.Schema
import RustSchema.Text.Blank
import RustSchema.Text.Case

namespace RustSchema.Plain

def readText : Plain → Reading String
  | .text s => .done s
  | _ => .fail .notText

def readTextOrNull : Plain → Reading (Option String)
  | .null => .done none
  | .text s => .done (some s)
  | _ => .fail .notText

/-- Whether an integer fits in 64 bits with sign. -/
def fits64 (n : Int) : Bool := -0x8000000000000000 ≤ n && n < 0x8000000000000000

/-- Whether an integer that comes as a float does; of the two ends neither counts. -/
def fitsFloat64 (n : Int) : Bool := n.natAbs < 0x8000000000000000

/-! ## Truth values -/

def falseWords : List String := ["0", "off", "f", "false", "n", "no"]

def trueWords : List String := ["1", "on", "t", "true", "y", "yes"]

/-- The text with its ASCII capitals made small. -/
def smallAscii (s : String) : String :=
  String.ofList (s.toList.map fun c => if Text.isUpper c then Char.ofNat (c.toNat + 32) else c)

def readBool : Plain → Reading Bool
  | .bool b => .done b
  | .int 0 => .done false
  | .int 1 => .done true
  | .int n => .fail (if fits64 n then .unreadableBool else .notBool)
  | .float x =>
    match x.int? with
    | some 0 => .done false
    | some 1 => .done true
    | some n => .fail (if fitsFloat64 n then .unreadableBool else .notBool)
    | none => .fail .notBool
  | .text s =>
    if smallAscii s ∈ falseWords then .done false
    else if smallAscii s ∈ trueWords then .done true
    else .fail .unreadableBool
  | _ => .fail .notBool

/-! ## Numbers that stand for something else -/

/-- A value listed by number: the member of `members` whose number `v` is equal to. -/
def readMember {α : Type} (members : List α) (number : α → Int) (other : ProblemKind) :
    Plain → Reading α
  | .int n =>
    if fits64 n then (members.find? (number · = n)).elim (.fail other) .done
    else .fail .tooLarge
  | .float x => (members.find? fun a => x.int? = some (number a)).elim (.fail other) .done
  | .bool true => (members.find? (number · = 1)).elim (.fail other) .done
  | .bool false => (members.find? (number · = 0)).elim (.fail other) .done
  | _ => .fail other

def readKind : Plain → Reading FieldKind :=
  readMember FieldKind.all (fun k => (k.number : Int)) .notKind

/-! ## Numbers -/

/-- The longest number that is read from text, in digits. -/
def longestNumber : Nat := 4300

/-- The text from where its leading zeros end, with the underscores among them: at a digit,
    at a sign, or right before a point. Of zeros alone the last character stays. `last` is
    the character before. -/
def afterZeros (last : Char) : List Char → Option (List Char)
  | [] => some [last]
  | c :: rest =>
    if c = '0' || c = '_' then afterZeros c rest
    else if c = '.' then some (last :: c :: rest)
    else if Text.isDigit c || c = '-' then some (c :: rest)
    else none

def cutZeros : List Char → Option (List Char)
  | [] => none
  | c :: rest =>
    if c = '0' then afterZeros c rest
    else if Text.isDigit c || c = '-' then some (c :: rest)
    else none

/-- Cuts a point off with what follows it, which has to be zeros. -/
def cutFraction (cs : List Char) : Option (List Char) :=
  match cs.dropWhile (· != '.') with
  | [] => some cs
  | _ :: zeros =>
    if zeros ≠ [] && zeros.all (· == '0') then some (cs.takeWhile (· != '.')) else none

/-- Takes underscores out, each of which has to stand between two other characters;
    `between` says that one may come next. -/
def cutBars (between : Bool) : List Char → Option (List Char)
  | [] => if between then some [] else none
  | c :: rest =>
    if c = '_' then if between then cutBars false rest else none
    else (cutBars true rest).map (c :: ·)

def natOfDigits (cs : List Char) : Nat :=
  cs.foldl (fun n c => 10 * n + (c.toNat - '0'.toNat)) 0

/-- A minus sign, and what follows it. -/
def cutMinus : List Char → Bool × List Char
  | '-' :: rest => (true, rest)
  | cs => (false, cs)

/-- Digits, not too many, behind at most one minus sign and with no zero before others. -/
def intOfDigits? (cs : List Char) : Option Int :=
  let (negative, digits) := cutMinus cs
  if digits = [] || !digits.all Text.isDigit || (digits.head? = some '0' && digits ≠ ['0'])
      || longestNumber < digits.length then none
  else some (if negative then -(natOfDigits digits : Int) else natOfDigits digits)

/-- White space around a number, a sign, leading zeros and a fraction of zeros are cut off,
    and underscores are taken out. A minus sign may come after leading zeros too. -/
def intOfText? (s : String) : Option Int := do
  let (sign, body) : List Char × List Char :=
    match Text.trim s.toList with
    | '+' :: '-' :: _ => ([], [])
    | '+' :: rest => ([], rest)
    | '-' :: rest => (['-'], rest)
    | cs => ([], cs)
  intOfDigits? (sign ++ (← cutBars false (← cutFraction (← cutZeros body))))

/-- The text starts with a number that is too long and needs nothing cut off before it. -/
def startsTooLong (s : String) : Bool :=
  let digits := (cutMinus s.toList).2.takeWhile Text.isDigit
  digits.head? ≠ some '0' && longestNumber < digits.length

def readInt : Plain → Reading Int
  | .int n => .done n
  | .float x =>
    match x.int? with
    | some n => if fitsFloat64 n then .done n else .fail .tooLarge
    | none => .fail (if x.isSpecial then .notFinite else .fractional)
  | .bool b => .done (if b then 1 else 0)
  | .text s =>
    (intOfText? s).elim (.fail (if startsTooLong s then .tooLarge else .unreadableNumber)) .done
  | _ => .fail .notNumber

end RustSchema.Plain
