/-
  RustSchema.Expr — expressions over one operand, as generated code writes them.

  An expression is a chain of one-place operations over the operand, so the operand occurs
  in it exactly once. `Expr.render` plugs in the text of the operand; it writes no
  parentheses, so what a text means in a larger expression is up to who puts it there.
-/

namespace RustSchema

inductive Expr where
  | operand
  /-- The value behind a reference or in a box. -/
  | deref (e : Expr)
  | borrow (e : Expr)
  | box (e : Expr)
  /-- Owned text from borrowed text. -/
  | toOwned (e : Expr)
  /-- An owned vector from a slice. -/
  | toVec (e : Expr)
  /-- A shared text buffer from owned text. -/
  | toChars (e : Expr)
  /-- A shared byte buffer from an owned vector. -/
  | toBytes (e : Expr)
  /-- The number of an enum's variant, by reference. -/
  | enumNumber (e : Expr)
  /-- The number an open enum holds, by reference. -/
  | openEnumNumber (e : Expr)
  /-- The variant of an open enum, or the default one for an undeclared number. -/
  | knownOrDefault (e : Expr)
  | toOpenEnum (e : Expr)
  deriving DecidableEq, Repr

namespace Expr

/-- A function applied to one argument. -/
def call (function argument : String) : String := function ++ "(" ++ argument ++ ")"

def render (operand : String) : Expr → String
  | .operand => operand
  | .deref e => "*" ++ e.render operand
  | .borrow e => "&" ++ e.render operand
  | .box e => call "::std::boxed::Box::new" (e.render operand)
  | .toOwned e => e.render operand ++ ".to_owned()"
  | .toVec e => e.render operand ++ ".to_vec()"
  | .toChars e => call "<::protobuf::Chars as ::std::convert::From<_>>::from" (e.render operand)
  | .toBytes e => call "<::bytes::Bytes as ::std::convert::From<_>>::from" (e.render operand)
  | .enumNumber e => call "::protobuf::ProtobufEnum::value" (e.render operand)
  | .openEnumNumber e => call "::protobuf::ProtobufEnumOrUnknown::value" (e.render operand)
  | .knownOrDefault e =>
    call "::protobuf::ProtobufEnumOrUnknown::enum_value_or_default" (e.render operand)
  | .toOpenEnum e => call "::protobuf::ProtobufEnumOrUnknown::new" (e.render operand)

/-- The expression with another in the place of its operand. -/
def plug (inner : Expr) : Expr → Expr
  | .operand => inner
  | .deref e => .deref (plug inner e)
  | .borrow e => .borrow (plug inner e)
  | .box e => .box (plug inner e)
  | .toOwned e => .toOwned (plug inner e)
  | .toVec e => .toVec (plug inner e)
  | .toChars e => .toChars (plug inner e)
  | .toBytes e => .toBytes (plug inner e)
  | .enumNumber e => .enumNumber (plug inner e)
  | .openEnumNumber e => .openEnumNumber (plug inner e)
  | .knownOrDefault e => .knownOrDefault (plug inner e)
  | .toOpenEnum e => .toOpenEnum (plug inner e)

theorem render_plug (operand : String) (inner e : Expr) :
    (plug inner e).render operand = e.render (inner.render operand) := by
  induction e <;> simp_all [plug, render]

end Expr

end RustSchema
