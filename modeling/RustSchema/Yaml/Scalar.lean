/-
  RustSchema.Yaml.Scalar — the single values of a YAML document, when two of them are the
  same key, and how a key reads.

  Truth values and numbers are compared as numbers: `1`, `1.0` and `true` are one key. Not a
  number is the same key as itself. Times with an offset are compared as instants, and a
  time without one equals no time with one.
-/

import RustSchema.Double
import RustSchema.Text.Case
import RustSchema.Yaml.Fault

namespace RustSchema.Yaml

structure Date where
  year : Nat
  month : Nat
  day : Nat
  deriving DecidableEq, Repr

structure Time where
  date : Date
  hour : Nat
  minute : Nat
  second : Nat
  micro : Nat
  /-- The offset from universal time in minutes. -/
  offset : Option Int
  deriving DecidableEq, Repr

inductive Scalar where
  | null
  | bool (b : Bool)
  | int (n : Int)
  | float (x : Double)
  | date (d : Date)
  | time (t : Time)
  | text (s : String)
  | bytes (bs : List UInt8)
  deriving DecidableEq, Repr

/-! ## Dates -/

namespace Date

def isLeap (year : Nat) : Bool := year % 4 = 0 && (year % 100 ≠ 0 || year % 400 = 0)

def daysIn (year month : Nat) : Nat :=
  if month = 2 then if isLeap year then 29 else 28
  else if month = 4 || month = 6 || month = 9 || month = 11 then 30
  else 31

/-- The number of days up to the date, from the first day of the year 1. -/
def dayNumber (d : Date) : Nat :=
  let before := d.year - 1
  365 * before + before / 4 - before / 100 + before / 400
    + (List.range' 1 (d.month - 1)).foldl (fun n month => n + daysIn d.year month) 0 + d.day

/-- The digits of `n`, with zeros before them up to `width`. -/
def padded (width n : Nat) : String :=
  let digits := toString n
  String.ofList (List.replicate (width - digits.length) '0') ++ digits

def text (d : Date) : String :=
  padded 4 d.year ++ "-" ++ padded 2 d.month ++ "-" ++ padded 2 d.day

end Date

namespace Time

open Date (padded)

/-- The microseconds since the first day of the year 1, in universal time if there is an
    offset. -/
def instant (t : Time) : Int :=
  let minutes : Int := (t.date.dayNumber * 24 + t.hour) * 60 + t.minute - t.offset.getD 0
  (minutes * 60 + t.second) * 1000000 + t.micro

def same (a b : Time) : Bool := a.offset.isSome = b.offset.isSome && a.instant = b.instant

def offsetText (minutes : Int) : String :=
  (if minutes < 0 then "-" else "+") ++ padded 2 (minutes.natAbs / 60) ++ ":"
    ++ padded 2 (minutes.natAbs % 60)

def text (t : Time) : String :=
  t.date.text ++ " " ++ padded 2 t.hour ++ ":" ++ padded 2 t.minute ++ ":" ++ padded 2 t.second
    ++ (if t.micro = 0 then "" else "." ++ padded 6 t.micro) ++ t.offset.elim "" offsetText

end Time

/-! ## Keys -/

namespace Scalar

/-- The integer that a truth value or an integer is. -/
def int? : Scalar → Option Int
  | .bool b => some (if b then 1 else 0)
  | .int n => some n
  | _ => none

def sameKey (a b : Scalar) : Bool :=
  match a, b with
  | .float x, .float y => x.same y
  | .float x, b => b.int?.isSome && x.int? = b.int?
  | a, .float y => a.int?.isSome && y.int? = a.int?
  | .time x, .time y => x.same y
  | a, b => a = b || (a.int?.isSome && a.int? = b.int?)

/-- Numbers from 0.0001 up to below 10^16 are written positionally. -/
def floatFormat : Decimal.Format := ⟨-4, 15, 2⟩

def floatText (x : Double) : String :=
  if x.isNaN then "nan"
  else
    (if x.isNegative then "-" else "")
      ++ if x.isSpecial then "inf" else floatFormat.text (Decimal.shortest x.magnitude)

/-- Bytes as the characters with their numbers, those beyond ASCII escaped. -/
def bytesText (bs : List UInt8) : String :=
  let cs := bs.map fun b => Char.ofNat b.toNat
  let quote := Text.quoteFor cs
  let shown (c : Char) : List Char :=
    if Text.isAscii c then Text.escapeChar quote c else Text.escapeCode c.toNat
  String.ofList ('b' :: quote :: cs.flatMap shown ++ [quote])

/-- An integer of more digits than are shown. -/
def isLong : Scalar → Bool
  | .int n => longestNumber < (toString n.natAbs).length
  | _ => false

/-- The key as messages show it. -/
def keyText : Scalar → String
  | .null => "None"
  | .bool b => if b then "True" else "False"
  | .int n => toString n
  | .float x => floatText x
  | .date d => d.text
  | .time t => t.text
  | .text s => s
  | .bytes bs => bytesText bs

end Scalar

end RustSchema.Yaml
