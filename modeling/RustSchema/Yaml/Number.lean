/-
  RustSchema.Yaml.Number — the number that text stands for, once it is said to be one.

  More than what is spelled like a number is one: digits may be of any script and have blanks
  around them, and an exponent needs no sign. Bars are left out first. `0b` and `0x` are the
  marks of bases, another zero in front means base eight, and colons mean base sixty.
-/

import RustSchema.Double
import RustSchema.Text.Blank
import RustSchema.Text.Digits
import RustSchema.Yaml.Fault

namespace RustSchema.Yaml.Number

open Text (isDigit)

/-- A sign, if there is one, and what follows. -/
def unsigned : List Char → Bool × List Char
  | '-' :: rest => (true, rest)
  | '+' :: rest => (false, rest)
  | cs => (false, cs)

def withoutBars (cs : List Char) : List Char := cs.filter (· ≠ '_')

/-- Text as numbers are read from it. -/
def plain (cs : List Char) : List Char := Text.trim (cs.map Text.asciiDigit)

def signed (negative : Bool) (n : Int) : Int := if negative then -n else n

/-! ## Integers -/

/-- The letter that may stand after a zero before digits in a base. -/
def baseMarks : Nat → List Char
  | 2 => ['b', 'B']
  | 8 => ['o', 'O']
  | 16 => ['x', 'X']
  | _ => []

def withoutMark (base : Nat) : List Char → List Char
  | '0' :: c :: rest => if (baseMarks base).contains c then rest else '0' :: c :: rest
  | cs => cs

/-- An integer in one base. -/
def whole (base : Nat) (cs : List Char) : Except Unvalued Int :=
  let (negative, body) := unsigned (plain cs)
  let body := withoutMark base body
  let digits := body.takeWhile (Text.isDigitIn base)
  if base = 10 && longestNumber < digits.length then .error (.tooManyDigits digits.length)
  else if digits = [] || digits.length < body.length then
    .error (.noInteger base (String.ofList cs))
  else .ok (signed negative (Text.numberIn base digits))

def int (cs : List Char) : Except Unvalued Int := do
  let (negative, body) := unsigned (withoutBars cs)
  let n ← match body with
    | [] => throw .noNumber
    | ['0'] => pure 0
    | '0' :: 'b' :: digits => whole 2 digits
    | '0' :: 'x' :: digits => whole 16 digits
    | '0' :: digits => whole 8 ('0' :: digits)
    | _ => do
      let pieces ← (body.splitOn ':').mapM (whole 10)
      pure (pieces.foldl (60 * · + ·) 0)
  return signed negative n

/-! ## Floats -/

def infinity : Float := 1.0 / 0.0

def notNumber : Float := 0.0 / 0.0

def infinityWords : List String := ["inf", "infinity"]

def notNumberWord : String := "nan"

/-- An exponent, with or without a sign; where nothing is left it is zero. -/
def exponent? : List Char → Option Int
  | [] => some 0
  | e :: rest =>
    let (negative, digits) := unsigned rest
    if (e = 'e' || e = 'E') && digits ≠ [] && digits.all isDigit then
      some (signed negative (Text.numberIn 10 digits))
    else none

/-- A number with or without a point, or a word for a special one. -/
def magnitude? (cs : List Char) : Option Float :=
  let word := String.ofList cs
  if word ∈ infinityWords then some infinity
  else if word = notNumberWord then some notNumber
  else
    let whole := cs.takeWhile isDigit
    let (fraction, rest) := match cs.dropWhile isDigit with
      | '.' :: after => (after.takeWhile isDigit, after.dropWhile isDigit)
      | rest => ([], rest)
    if whole = [] && fraction = [] then none
    else
      (exponent? rest).map fun e =>
        Double.nearest (Text.numberIn 10 (whole ++ fraction)) (e - fraction.length)

def real (cs : List Char) : Except Unvalued Float :=
  let (negative, body) := unsigned (plain cs)
  match magnitude? body with
  | some x => .ok (if negative then -x else x)
  | none => .error (.noFloat (String.ofList cs))

/-- The sum of the pieces, the last one first, each times its power of sixty, which has to
    be a float. -/
def sixtySum (pieces : List Float) : Except Unvalued Float := do
  let (sum, _) ← pieces.reverse.foldlM
    (fun (sum, place) piece => do
      let scale := Float.ofNat place
      if (Double.ofFloat scale).isSpecial then throw .placeTooLarge
      return (sum + piece * scale, 60 * place))
    ((0.0, 1) : Float × Nat)
  return sum

def float (cs : List Char) : Except Unvalued Double := do
  let cs := Text.lower (withoutBars cs)
  if cs = [] then throw .noNumber
  let (negative, body) := unsigned cs
  let word := String.ofList body
  if word = ".nan" then return .ofFloat notNumber
  let x ← if word = ".inf" then pure infinity else do
    match ← (body.splitOn ':').mapM real with
    | [x] => pure x
    | pieces => sixtySum pieces
  return .ofFloat (if negative then -x else x)

end RustSchema.Yaml.Number
