/-
  RustSchema.Yaml.Base64 — bytes from digits of six bits each.

  Four digits make three bytes. What is no digit is passed over. A group that ends early is
  filled up with marks, and what follows a group that is full is not read.
-/

import RustSchema.Text.Case

namespace RustSchema.Yaml.Base64

/-- The value of a digit. -/
def value? (c : Char) : Option Nat :=
  if Text.isUpper c then some (c.toNat - 'A'.toNat)
  else if Text.isLower c then some (c.toNat - 'a'.toNat + 26)
  else if Text.isDigit c then some (c.toNat - '0'.toNat + 52)
  else if c = '+' then some 62
  else if c = '/' then some 63
  else none

/-- The bytes from inside a group of four: `count` of its digits are read, `left` is what
    they leave for the next byte, and `marks` filled it up since the last of them. -/
def bytesFrom (count left marks : Nat) : List Char → Option (List UInt8)
  | [] => if count = 0 then some [] else none
  | c :: rest =>
    if c = '=' then
      if count < 2 then bytesFrom count left marks rest
      else if 4 ≤ count + marks + 1 then some []
      else bytesFrom count left (marks + 1) rest
    else
      match value? c, count with
      | none, _ => bytesFrom count left marks rest
      | some d, 0 => bytesFrom 1 d 0 rest
      | some d, 1 => (bytesFrom 2 (d % 16) 0 rest).map (UInt8.ofNat (4 * left + d / 16) :: ·)
      | some d, 2 => (bytesFrom 3 (d % 4) 0 rest).map (UInt8.ofNat (16 * left + d / 4) :: ·)
      | some d, _ => (bytesFrom 0 0 0 rest).map (UInt8.ofNat (64 * left + d) :: ·)

def bytes (cs : List Char) : Option (List UInt8) := bytesFrom 0 0 0 cs

end RustSchema.Yaml.Base64
