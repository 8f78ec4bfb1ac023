/-
  RustSchema.Double — double-precision numbers, by their 64 bits.

  The bits tell the two zeros apart and one NaN from another; `same` does neither. A finite
  number is exactly `mantissa * 2 ^ exponent`, so `int?` involves no rounding.
-/

import RustSchema.Decimal.Shortest

namespace RustSchema

structure Double where
  bits : UInt64
  deriving DecidableEq, Repr

namespace Double

def ofFloat (x : Float) : Double := ⟨x.toBits⟩

def isNegative (x : Double) : Bool := x.bits >>> 63 = 1

/-- The eleven bits of the exponent. -/
def power (x : Double) : Nat := (x.bits >>> 52 &&& 0x7FF).toNat

/-- The fifty-two bits of the mantissa. -/
def fraction (x : Double) : Nat := (x.bits &&& 0xFFFFFFFFFFFFF).toNat

/-- Infinite, or not a number. -/
def isSpecial (x : Double) : Bool := x.power = 0x7FF

def isNaN (x : Double) : Bool := x.isSpecial && x.fraction ≠ 0

def isZero (x : Double) : Bool := x.power = 0 && x.fraction = 0

/-- The distance of a finite number from zero. -/
def magnitude (x : Double) : Decimal.Binary :=
  if x.power = 0 then ⟨x.fraction, -1074⟩
  else ⟨Decimal.Binary.hiddenBit + x.fraction, (x.power : Int) - 1075⟩

/-- The integer that the number is equal to. -/
def int? (x : Double) : Option Int :=
  let m := x.magnitude
  let scale := Nat.pow 2 (-m.exponent).toNat
  let n : Int := (m.mantissa / scale * Nat.pow 2 m.exponent.toNat : Nat)
  if x.isSpecial || m.mantissa % scale ≠ 0 then none
  else some (if x.isNegative then -n else n)

def same (x y : Double) : Bool := x = y || (x.isZero && y.isZero) || (x.isNaN && y.isNaN)

/-- The number nearest to `mantissa * 10 ^ exponent`; far outside the range it is infinite or
    zero. -/
def nearest (mantissa : Nat) (exponent : Int) : Float :=
  let size : Int := (Nat.toDigits 10 mantissa).length
  if mantissa = 0 || size + exponent < -400 then 0.0
  else if 400 < size + exponent then 1.0 / 0.0
  else Float.ofScientific mantissa (exponent < 0) exponent.natAbs

end Double

end RustSchema
