/-
  RustSchema.Conversion — converting a value of one type into another.

  The rules are tried in order, and the first that applies converts. When none does and
  the source is a reference, the search goes on with the type behind it, under the same
  expression for the operand. The log names the rule and the type it was applied to.
-/

import RustSchema.Error
import RustSchema.Traced

namespace RustSchema

/-- A rule, the type it applies to, and the expression that converts. -/
structure Conversion where
  rule : Rule
  source : Ty
  expr : Expr
  deriving DecidableEq, Repr

namespace Conversion

/-- The first of the rules that applies to the pair itself. -/
def direct? (rules : List Rule) (source target : Ty) : Option Conversion :=
  rules.findSome? fun rule => (rule.expr? source target).map (⟨rule, source, ·⟩)

/-- Looks behind the references of the source, one at a time, for a rule that applies. -/
def search? (rules : List Rule) (target : Ty) : Ty → Option Conversion
  | .ref inner => (direct? rules (.ref inner) target).or (search? rules target inner)
  | source => direct? rules source target

def find? (source target : Ty) : Option Conversion := search? Rule.all target source

def event (conversion : Conversion) (target : Ty) : Event :=
  .converted conversion.source target conversion.rule

end Conversion

/-- What the rules make of `value`: the text that turns it into `target`, if one of them
    applies, and what is logged. -/
def tryConvertBy (rules : List Rule) (source target : Ty) (value : String) :
    Option String × List Event :=
  match Conversion.search? rules target source with
  | some conversion => (some (conversion.expr.render value), [conversion.event target])
  | none => (none, [])

/-- The text that turns `value`, of type `source`, into `target`. -/
def convert? (source target : Ty) (value : String) : Option String :=
  (tryConvertBy Rule.all source target value).1

def convert (source target : Ty) (value : String) : Traced Error String :=
  let (text?, log) := tryConvertBy Rule.all source target value
  match text? with
  | some text => ⟨.ok text, log⟩
  | none => ⟨.error (.noConversion source target), log⟩

theorem convert_of_some {source target : Ty} {conversion : Conversion}
    (h : Conversion.find? source target = some conversion) (value : String) :
    convert source target value =
      ⟨.ok (conversion.expr.render value), [conversion.event target]⟩ := by
  rw [Conversion.find?] at h
  simp [convert, tryConvertBy, h]

theorem convert_of_none {source target : Ty} (h : Conversion.find? source target = none)
    (value : String) :
    convert source target value = ⟨.error (.noConversion source target), []⟩ := by
  rw [Conversion.find?] at h
  simp [convert, tryConvertBy, h]

end RustSchema
