/-
  RustSchema.Proofs.Views — views of values, and the conversions to them and back.

  Three questions are answered by three tables: which reference a type is viewed through,
  which types convert, and which references have a default. `View` puts them side by side: it
  lists the types that have a view, with the text that turns a value into its view and the text
  that turns a view into a value, where there is one. Text and byte buffers convert both ways;
  a message and a box are only read out of their view, as no rule borrows them; and a repeated
  field is viewed as a slice that converts into vectors only.

  `views_and_conversions_agree`: the types listed are the ones that have a view, and for each
  of them the conversions are the ones listed and no others; a view has a default unless it is
  the view of a box.
-/

import RustSchema.Proofs.Conversion.Domain
import RustSchema.Ty.Value

namespace RustSchema

namespace Ty

/-- A type, its view, and the texts that lead to the view and from it. -/
inductive View : Ty → Ty → Option (String → String) → Option (String → String) → Prop
  | string : View .string (.ref .str) (some fun v => "&" ++ v) (some fun w => w ++ ".to_owned()")
  | chars : View .chars (.ref .str) (some fun v => "&" ++ v) (some fun w =>
      "<::protobuf::Chars as ::std::convert::From<_>>::from(" ++ w ++ ".to_owned())")
  | vec (x : Ty) :
      View (.vec x) (.ref (.slice x)) (some fun v => "&" ++ v) (some fun w => w ++ ".to_vec()")
  | bytes : View .bytes (.ref (.slice u8)) (some fun v => "&" ++ v) (some fun w =>
      "<::bytes::Bytes as ::std::convert::From<_>>::from(" ++ w ++ ".to_vec())")
  | repeatedField (x : Ty) : View (.repeatedField x) (.ref (.slice x)) none none
  | message (n : QualName) : View (.message n) (.ref (.message n)) none (some fun w => "*" ++ w)
  | box (x : Ty) : View (.box x) (.ref (.box x)) none (some fun w => "*" ++ w)

theorem view_eq_ok_iff {t u : Ty} : t.view = .ok u ↔ ∃ there back, View t u there back := by
  constructor
  · intro h
    cases t <;> cases h
    · exact ⟨_, _, .string⟩
    · exact ⟨_, _, .vec _⟩
    · exact ⟨_, _, .repeatedField _⟩
    · exact ⟨_, _, .box _⟩
    · exact ⟨_, _, .message _⟩
    · exact ⟨_, _, .bytes⟩
    · exact ⟨_, _, .chars⟩
  · rintro ⟨_, _, h⟩
    cases h <;> rfl

end Ty

/-- The conversion of `source` into `target` that gives this text, or fails without one. -/
def ConvertsBy (source target : Ty) (text? : Option (String → String)) : Prop :=
  ∀ v, (convert source target v).result =
    text?.elim (.error (.noConversion source target)) fun text => .ok (text v)

theorem Rule.Gives.convertsBy {rule : Rule} {source target : Ty} {e : Expr}
    {text : String → String} (h : rule.Gives source target e) (htext : ∀ v, e.render v = text v) :
    ConvertsBy source target (some text) := by
  intro v
  rw [convert_of_gives h, htext]
  rfl

theorem convertsBy_none {source target : Ty}
    (h : ∀ n s, source.behind n = some s → ¬ Core s target) : ConvertsBy source target none := by
  intro v
  rw [convert_of_not_core h]
  rfl

theorem convertsBy_none_of_not_ref {source target : Ty} (hsource : source.refTarget? = none)
    (h : ¬ Core source target) : ConvertsBy source target none := by
  refine convertsBy_none fun n s hs => ?_
  cases n with
  | zero =>
    cases hs
    exact h
  | succ n => cases source <;> first | cases hs | cases hsource

namespace Ty.View

variable {t u : Ty} {there back : Option (String → String)}

/-- Only text and byte buffers and vectors are borrowed. -/
theorem convertsBy_there (h : View t u there back) : ConvertsBy t u there := by
  cases h with
  | string => exact Rule.Gives.borrowString.convertsBy fun _ => rfl
  | chars => exact Rule.Gives.borrowChars.convertsBy fun _ => rfl
  | vec x => exact (Rule.Gives.borrowVec x).convertsBy fun _ => rfl
  | bytes => exact Rule.Gives.borrowBytes.convertsBy fun _ => rfl
  | repeatedField x => exact convertsBy_none_of_not_ref rfl nofun
  | message n => exact convertsBy_none_of_not_ref rfl nofun
  | box x =>
    -- unboxing it would give its own view only if that were in the box
    refine convertsBy_none_of_not_ref rfl fun hcore => ?_
    cases hcore

/-- Text and slices are copied out of their view, a message and a box are read through it. -/
theorem convertsBy_back (h : View t u there back) : ConvertsBy u t back := by
  cases h with
  | string => exact Rule.Gives.ownStr.convertsBy fun _ => rfl
  | chars =>
    exact Rule.Gives.shareStr.convertsBy fun w => by
      simp [Expr.render, Expr.call, String.append_assoc]
  | vec x => exact (Rule.Gives.ownSlice x).convertsBy fun _ => rfl
  | bytes =>
    exact Rule.Gives.shareSlice.convertsBy fun w => by
      simp [Expr.render, Expr.call, String.append_assoc]
  | message n => exact (Rule.Gives.deref (.message n)).convertsBy fun _ => rfl
  | box x => exact (Rule.Gives.deref (.box x)).convertsBy fun _ => rfl
  | repeatedField x =>
    refine convertsBy_none fun n s hs hcore => ?_
    rcases n with _ | _ | n
    · cases hs
      cases hcore
    · cases hs
      cases hcore
    · cases hs

theorem defaultValue_iff (h : View t u there back) :
    (∃ text, u.defaultValue = .ok text) ↔ ∀ x, t ≠ .box x := by
  cases h <;> simp [defaultValue]

end Ty.View

/-- The types that have a view are the ones listed, and between a type and its view there are the
    conversions listed and no others. The view has a default unless it is that of a box. -/
theorem views_and_conversions_agree :
    (∀ t u : Ty, t.view = .ok u ↔ ∃ there back, t.View u there back) ∧
    ∀ (t u : Ty) (there back : Option (String → String)), t.View u there back →
      ConvertsBy t u there ∧ ConvertsBy u t back ∧
        ((∃ text, u.defaultValue = .ok text) ↔ ∀ x, t ≠ .box x) :=
  ⟨fun _ _ => Ty.view_eq_ok_iff,
    fun _ _ _ _ h => ⟨h.convertsBy_there, h.convertsBy_back, h.defaultValue_iff⟩⟩

/-- A box in a box is viewed as it is: not borrowed, but read, and without a default. -/
theorem views_and_conversions_agree_in_boxes :
    let t : Ty := .box (.box (.vec Ty.u8))
    t.View (.ref t) none (some fun w => "*" ++ w) ∧ t.view = .ok (.ref t) ∧
      (convert t (.ref t) "v").result = .error (.noConversion t (.ref t)) ∧
      (convert (.ref t) t "w").result = .ok "*w" ∧
      ¬ ∃ text, (Ty.ref t).defaultValue = .ok text := by
  intro t
  have hview : t.View (.ref t) none (some fun w => "*" ++ w) := .box _
  obtain ⟨hviews, hrows⟩ := views_and_conversions_agree
  obtain ⟨hthere, hback, hdefault⟩ := hrows _ _ _ _ hview
  exact ⟨hview, (hviews _ _).mpr ⟨_, _, hview⟩, hthere "v", hback "w",
    fun h => hdefault.mp h _ rfl⟩

end RustSchema
