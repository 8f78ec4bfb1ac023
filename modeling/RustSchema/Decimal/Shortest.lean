/-
  RustSchema.Decimal.Shortest — the fewest decimal digits that read back as the same binary
  number, and the nearest of those.

  A finite positive number is `mantissa * 2 ^ exponent`; the reals that round to it form an
  interval around it, which holds its ends when the mantissa is even. For 1, 2, … digits the
  two neighbours of the number on the decimal grid are tried, and the first grid with a
  neighbour in the interval wins. All of it is exact arithmetic on natural numbers.
-/

namespace RustSchema.Decimal

/-- A finite positive binary number. -/
structure Binary where
  mantissa : Nat
  exponent : Int
  deriving DecidableEq, Repr

/-- The first bit of the mantissa of most numbers, which their 64 bits leave out. -/
def Binary.hiddenBit : Nat := 0x10000000000000

/-- A decimal number: its digits, of which the first stands at the power of ten `exponent`. -/
structure Digits where
  digits : List Nat
  exponent : Int
  deriving DecidableEq, Repr

/-- A number as a quotient, with the distances to the two ends of its interval, all four in
    the same unit. -/
structure Interval where
  value : Nat
  below : Nat
  above : Nat
  unit : Nat
  closed : Bool

/-- Below a power of two the numbers lie twice as close. -/
def Binary.interval (b : Binary) : Interval :=
  let scale := Nat.pow 2 (b.exponent - 2).toNat
  let below := if b.mantissa = hiddenBit && -1074 < b.exponent then 1 else 2
  ⟨4 * b.mantissa * scale, below * scale, 2 * scale, Nat.pow 2 (2 - b.exponent).toNat,
    b.mantissa % 2 = 0⟩

/-- The power of ten of the first digit of `value / unit`. -/
def leadingPower (value unit : Nat) : Int :=
  if unit ≤ value then (Nat.toDigits 10 (value / unit)).length - 1
  else
    let size := (Nat.toDigits 10 (unit / value)).length
    if unit ≤ value * Nat.pow 10 (size - 1) then 1 - (size : Int) else -(size : Int)

/-- The point `n` of the grid with steps of `10 ^ power` is in the interval; and its distance
    from the value, in a unit that depends on the grid alone. -/
def Interval.distance? (i : Interval) (power : Int) (n : Nat) : Option Nat :=
  let up := Nat.pow 10 power.toNat
  let down := Nat.pow 10 (-power).toNat
  let point := n * up * i.unit
  let value := i.value * down
  let inside (gap bound : Nat) : Bool := if i.closed then gap ≤ bound else gap < bound
  if point ≤ value then
    if inside (value - point) (i.below * down) then some (value - point) else none
  else if inside (point - value) (i.above * down) then some (point - value)
  else none

/-- The neighbour of the value on the grid, if one is in the interval: the nearer of two,
    and the even one of two equally near. -/
def Interval.neighbour? (i : Interval) (power : Int) : Option Nat :=
  let n := i.value * Nat.pow 10 (-power).toNat / (i.unit * Nat.pow 10 power.toNat)
  match i.distance? power n, i.distance? power (n + 1) with
  | some low, some high =>
    if low < high || (low = high && n % 2 = 0) then some n else some (n + 1)
  | some _, none => some n
  | none, some _ => some (n + 1)
  | none, none => none

def digitsOf (n : Nat) : List Nat := (Nat.toDigits 10 n).map fun c => c.toNat - '0'.toNat

/-- Tries grids of ever more digits; seventeen are always enough. -/
def Interval.search (i : Interval) (leading : Int) : Nat → Int → Digits
  | 0, _ => ⟨[], leading⟩
  | fuel + 1, power =>
    match i.neighbour? power with
    | some n =>
      let digits := digitsOf n
      ⟨(digits.reverse.dropWhile (· = 0)).reverse, power + digits.length - 1⟩
    | none => i.search leading fuel (power - 1)

def shortest (b : Binary) : Digits :=
  if b.mantissa = 0 then ⟨[0], 0⟩
  else
    let i := b.interval
    let leading := leadingPower i.value i.unit
    i.search leading 20 leading

/-! ## Text -/

def textOf (digits : List Nat) : String := String.ofList (digits.map fun d => Nat.digitChar d)

/-- How a format writes decimal numbers. -/
structure Format where
  /-- The least and the greatest power of ten of the first digit for positional writing. -/
  least : Int
  greatest : Int
  /-- The least number of digits of a written exponent. -/
  exponentDigits : Nat

/-- Positional writing always has a point, and a digit on either side of it. -/
def positional (d : Digits) : String :=
  if d.exponent < 0 then
    "0." ++ textOf (List.replicate (-d.exponent - 1).toNat 0 ++ d.digits)
  else
    let whole := d.exponent.toNat + 1
    let digits := d.digits ++ List.replicate (whole - d.digits.length) 0
    let fraction := digits.drop whole
    textOf (digits.take whole) ++ "." ++ textOf (if fraction = [] then [0] else fraction)

def scientific (d : Digits) (exponentDigits : Nat) : String :=
  let power := textOf (digitsOf d.exponent.natAbs)
  let zeros := String.ofList (List.replicate (exponentDigits - power.length) '0')
  textOf (d.digits.take 1) ++ (if d.digits.length = 1 then "" else "." ++ textOf (d.digits.drop 1))
    ++ "e" ++ (if d.exponent < 0 then "-" else "+") ++ zeros ++ power

def Format.text (format : Format) (d : Digits) : String :=
  if format.least ≤ d.exponent ∧ d.exponent ≤ format.greatest then positional d
  else scientific d format.exponentDigits

end RustSchema.Decimal
