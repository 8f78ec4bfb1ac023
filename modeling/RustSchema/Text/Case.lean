/-
  RustSchema.Text.Case — lower-case and upper-case text, by the full case mappings of
  Unicode.

  A mapping may lengthen the text (`İ` becomes `i` and a combining dot, `ß` becomes `SS`),
  and a capital sigma that ends a word becomes the final sigma. ASCII is decided by
  arithmetic alone (`lowerChar_of_ascii`), so laws about ASCII names need no table.
-/

import RustSchema.Text.CaseTable
import RustSchema.Text.Runs

namespace RustSchema.Text

def isUpper (c : Char) : Bool := 'A' ≤ c && c ≤ 'Z'

def isLower (c : Char) : Bool := 'a' ≤ c && c ≤ 'z'

def isDigit (c : Char) : Bool := '0' ≤ c && c ≤ '9'

def isAscii (c : Char) : Bool := c.toNat < 128

/-! ## One character -/

def CaseRun.holds (run : CaseRun) (n : Nat) : Bool :=
  run.first ≤ n && n ≤ run.last && (n - run.first) % run.stride == 0

/-- The image of a character beyond ASCII: its expansion, or its run's shift, or itself. -/
def mapCase (expansions : List (Nat × List Nat)) (runs : List CaseRun) (c : Char) : List Char :=
  match expansions.lookup c.toNat with
  | some ns => ns.map Char.ofNat
  | none =>
    match runs.find? (·.holds c.toNat) with
    | some run => [Char.ofNat (c.toNat + run.shift).toNat]
    | none => [c]

def lowerChar (c : Char) : List Char :=
  if isAscii c then [if isUpper c then Char.ofNat (c.toNat + 32) else c]
  else mapCase lowerExpansions lowerRuns c

def upperChar (c : Char) : List Char :=
  if isAscii c then [if isLower c then Char.ofNat (c.toNat - 32) else c]
  else mapCase upperExpansions upperRuns c

theorem lowerChar_of_ascii {c : Char} (h : isAscii c = true) :
    lowerChar c = [if isUpper c then Char.ofNat (c.toNat + 32) else c] := by
  simp [lowerChar, h]

/-! ## The final sigma -/

/-- The nearest character that is not passed over is a letter with case. -/
def meetsCased (cs : List Char) : Bool :=
  match cs.dropWhile (inRuns caseIgnorableRuns) with
  | c :: _ => inRuns casedRuns c
  | [] => false

/-- A sigma ends its word when a letter with case stands before it (`before` reads
    backwards) and none after it. -/
def endsWord (before after : List Char) : Bool := meetsCased before && !meetsCased after

/-! ## Whole text -/

def lowerAfter (before : List Char) : List Char → List Char
  | [] => []
  | c :: rest =>
    (if c = 'Σ' then [if endsWord before rest then 'ς' else 'σ'] else lowerChar c)
      ++ lowerAfter (c :: before) rest

def lower (cs : List Char) : List Char := lowerAfter [] cs

/-- Upper-cases the first character only. -/
def capitalize : List Char → List Char
  | [] => []
  | c :: rest => upperChar c ++ rest

end RustSchema.Text
