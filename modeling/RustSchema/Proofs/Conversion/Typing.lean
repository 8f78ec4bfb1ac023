/-
  RustSchema.Proofs.Conversion.Typing — the types of the expressions that conversions write.

  `Expr.HasTy` types an expression over one operand. A borrow has the reference type of what
  is borrowed, or one of the views that borrowed text, vectors and byte buffers coerce to.
  Whether a value may be moved out of its place is left open, and so is the default variant
  of an enum, which the written type does not have.

  The text of an expression has no parentheses. It reads as that expression when no method is
  called on an operator expression, since a method call binds tighter (`Expr.Grouped`).

  Each row of the table of conversions has a grouped expression of the target type, for an operand
  of the source type (`Rule.hasTy_of_gives`, `Rule.grouped_of_gives`).
-/

import RustSchema.Proofs.Conversion.Table

namespace RustSchema

namespace Expr

/-- The types of an expression whose operand has type `source`. -/
inductive HasTy (source : Ty) : Expr → Ty → Prop
  | operand : HasTy source .operand source
  | derefRef {e : Expr} {x : Ty} : HasTy source e (.ref x) → HasTy source (.deref e) x
  | derefBox {e : Expr} {x : Ty} : HasTy source e (.box x) → HasTy source (.deref e) x
  | borrow {e : Expr} {x : Ty} : HasTy source e x → HasTy source (.borrow e) (.ref x)
  | borrowString {e : Expr} : HasTy source e .string → HasTy source (.borrow e) (.ref .str)
  | borrowChars {e : Expr} : HasTy source e .chars → HasTy source (.borrow e) (.ref .str)
  | borrowStringRef {e : Expr} :
      HasTy source e (.ref .string) → HasTy source (.borrow e) (.ref .str)
  | borrowVec {e : Expr} {x : Ty} :
      HasTy source e (.vec x) → HasTy source (.borrow e) (.ref (.slice x))
  | borrowVecRef {e : Expr} {x : Ty} :
      HasTy source e (.ref (.vec x)) → HasTy source (.borrow e) (.ref (.slice x))
  | borrowBytes {e : Expr} :
      HasTy source e .bytes → HasTy source (.borrow e) (.ref (.slice Ty.u8))
  | box {e : Expr} {x : Ty} : HasTy source e x → HasTy source (.box e) (.box x)
  | toOwned {e : Expr} : HasTy source e (.ref .str) → HasTy source (.toOwned e) .string
  | toVec {e : Expr} {x : Ty} :
      HasTy source e (.ref (.slice x)) → HasTy source (.toVec e) (.vec x)
  | toChars {e : Expr} : HasTy source e .string → HasTy source (.toChars e) .chars
  | toBytes {e : Expr} : HasTy source e (.vec Ty.u8) → HasTy source (.toBytes e) .bytes
  | enumNumber {e : Expr} {n : QualName} {d : String} :
      HasTy source e (.ref (.enum n d)) → HasTy source (.enumNumber e) Ty.i32
  | openEnumNumber {e : Expr} {n : QualName} {d : String} :
      HasTy source e (.ref (.openEnum n d)) → HasTy source (.openEnumNumber e) Ty.i32
  | knownOrDefault {e : Expr} {n : QualName} {d : String} (d' : String) :
      HasTy source e (.ref (.openEnum n d)) → HasTy source (.knownOrDefault e) (.enum n d')
  | toOpenEnum {e : Expr} {n : QualName} {d : String} (d' : String) :
      HasTy source e (.enum n d) → HasTy source (.toOpenEnum e) (.openEnum n d')

/-- The text begins with a star or an ampersand of its own. -/
def IsOperator : Expr → Prop
  | .deref _ | .borrow _ => True
  | _ => False

/-- No method is called on an operator expression. -/
def Grouped : Expr → Prop
  | .operand => True
  | .toOwned e | .toVec e => ¬ e.IsOperator ∧ e.Grouped
  | .deref e | .borrow e | .box e | .toChars e | .toBytes e | .enumNumber e
  | .openEnumNumber e | .knownOrDefault e | .toOpenEnum e => e.Grouped

end Expr

namespace Rule

variable {rule : Rule} {source target : Ty} {e : Expr}

/-- Each row of the table has an expression of the target type. -/
theorem hasTy_of_gives (h : rule.Gives source target e) : e.HasTy source target := by
  cases h with
  | identity => exact .operand
  | refBoxToRef => exact .borrow (.derefBox (.derefRef .operand))
  | deref => exact .derefRef .operand
  | box => exact .box .operand
  | unbox => exact .derefBox .operand
  | borrowString => exact .borrowString .operand
  | borrowChars => exact .borrowChars .operand
  | borrowStringRef => exact .borrowStringRef .operand
  | ownStr => exact .toOwned .operand
  | shareStr => exact .toChars (.toOwned .operand)
  | ownSlice => exact .toVec .operand
  | shareSlice => exact .toBytes (.toVec .operand)
  | borrowVec => exact .borrowVec .operand
  | borrowBytes => exact .borrowBytes .operand
  | borrowVecRef => exact .borrowVecRef .operand
  | enumNumber => exact .enumNumber (.borrow .operand)
  | openEnumNumber => exact .openEnumNumber (.borrow .operand)
  | enumRefNumber => exact .enumNumber .operand
  | openEnumRefNumber => exact .openEnumNumber .operand
  | narrow _ _ d' => exact .knownOrDefault d' (.borrow .operand)
  | widen _ _ d' => exact .toOpenEnum d' .operand

/-- The methods of the table are called on the operand itself. -/
theorem grouped_of_gives (h : rule.Gives source target e) : e.Grouped := by
  cases h <;> simp [Expr.Grouped, Expr.IsOperator]

end Rule

end RustSchema
