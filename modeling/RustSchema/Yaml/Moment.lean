/-
  RustSchema.Yaml.Moment — the date or time that text stands for, once it is said to be one.

  A date is a year, a month and a day; after it may come a time of day, with a fraction of a
  second and an offset from universal time. One line feed may end the text.
-/

import RustSchema.Yaml.Number
import RustSchema.Yaml.Scalar

namespace RustSchema.Yaml.Moment

open Text (isDigit)

/-- The text before one line feed at its end. -/
def cutLineFeed (cs : List Char) : List Char :=
  if cs.getLast? = some '\n' then cs.dropLast else cs

/-! ## Spelling -/

/-- A number of between `least` and `most` digits, and what follows it. -/
def number? (least most : Nat) (cs : List Char) : Option (Nat × List Char) :=
  let digits := (cs.take most).takeWhile isDigit
  if least ≤ digits.length then some (Text.numberIn 10 digits, cs.drop digits.length) else none

def expect? (c : Char) : List Char → Option (List Char)
  | d :: rest => if d = c then some rest else none
  | [] => none

def isBlank (c : Char) : Bool := c = ' ' || c = '\t'

/-- An offset from universal time, to the end of the text. -/
def offset? (cs : List Char) : Option (Option Int) := do
  match cs.dropWhile isBlank with
  | [] => if cs = [] then some none else none
  | ['Z'] => some (some 0)
  | sign :: rest =>
    if sign ≠ '-' && sign ≠ '+' then none
    else
      let (hours, rest) ← number? 1 2 rest
      let minutes ← if rest = [] then some 0 else do
        let (minutes, rest) ← number? 2 2 (← expect? ':' rest)
        if rest = [] then some minutes else none
      some (some (Number.signed (sign = '-') (hours * 60 + minutes : Nat)))

/-- Microseconds from the digits of a fraction, of which six count. -/
def microsOf (digits : List Char) : Nat :=
  Text.numberIn 10 ((digits.take 6) ++ List.replicate (6 - digits.length) '0')

/-- The time of day and the offset, after the date. -/
def timeOf? (date : Date) (cs : List Char) : Option Time := do
  let rest ← match cs with
    | 'T' :: rest => some rest
    | 't' :: rest => some rest
    | c :: rest => if isBlank c then some (rest.dropWhile isBlank) else none
    | [] => none
  let (hour, rest) ← number? 1 2 rest
  let (minute, rest) ← number? 2 2 (← expect? ':' rest)
  let (second, rest) ← number? 2 2 (← expect? ':' rest)
  let (fraction, rest) := match rest with
    | '.' :: rest => (rest.takeWhile isDigit, rest.dropWhile isDigit)
    | _ => ([], rest)
  let offset ← offset? rest
  return ⟨date, hour, minute, second, microsOf fraction, offset⟩

/-- The date, and the time if one follows it. -/
def read? (cs : List Char) : Option (Date × Option Time) := do
  let (year, rest) ← number? 4 4 cs
  let (month, rest) ← number? 1 2 (← expect? '-' rest)
  let (day, rest) ← number? 1 2 (← expect? '-' rest)
  let date : Date := ⟨year, month, day⟩
  if rest = [] then return (date, none) else return (date, some (← timeOf? date rest))

/-! ## Value -/

def checkDate (d : Date) : Except Unvalued Unit :=
  if d.year = 0 then .error .year
  else if d.month < 1 || 12 < d.month then .error .month
  else if d.day < 1 || Date.daysIn d.year d.month < d.day then .error .day
  else .ok ()

/-- The offset is checked first: it is less than a day. -/
def checkTime (t : Time) : Except Unvalued Unit := do
  match t.offset with
  | some minutes => if 1440 ≤ minutes.natAbs then throw (.offset minutes)
  | none => pure ()
  checkDate t.date
  if 24 ≤ t.hour then throw .hour
  if 60 ≤ t.minute then throw .minute
  if 60 ≤ t.second then throw .second

def scalar (cs : List Char) : Except Unvalued Scalar :=
  match read? (cutLineFeed cs) with
  | none => .error .noTime
  | some (date, none) => (checkDate date).map fun _ => .date date
  | some (_, some time) => (checkTime time).map fun _ => .time time

end RustSchema.Yaml.Moment
