/-
  RustSchema.Proofs.Clearing — a cleared variable holds the default of its type.

  Three questions have a list of types each: which values are copied, which types have a
  default, and which variables can be cleared. Side by side the lists give four sorts of type
  (`sort_cases`). A value that is copied, or optional, is overwritten by its default
  (`IsOverwritten`). A container is emptied where it is, and its default is an empty one
  (`Container`). A message, and what is behind a reference to text, a slice or a message, has a
  default and is not cleared (`IsKept`). Every other type has neither.

  `clearing_restores_the_default`: what clears a variable is the assignment of the default or
  empties a container, and the types with a default that are not cleared are the ones listed.
  Each refusal names the question and the type.
-/

import RustSchema.Expr
import RustSchema.Ty.Value

namespace RustSchema.Ty

/-- The default is assigned to it. -/
def IsOverwritten (t : Ty) : Prop := t.isCopy = true ∨ ∃ inner, t = .option inner

/-- A container, the name it goes by without its arguments, and the function that makes an
    empty one. -/
inductive Container : Ty → String → String → Prop
  | string : Container .string "::std::string::String" "new"
  | bytes : Container .bytes "::bytes::Bytes" "new"
  | chars : Container .chars "::protobuf::Chars" "new"
  | vec (x : Ty) : Container (.vec x) "::std::vec::Vec" "new"
  | hashMap (k x : Ty) : Container (.hashMap k x) "::std::collections::HashMap" "new"
  | repeatedField (x : Ty) : Container (.repeatedField x) "::protobuf::RepeatedField" "new"
  | singularField (x : Ty) : Container (.singularField x) "::protobuf::SingularField" "none"
  | singularPtrField (x : Ty) :
      Container (.singularPtrField x) "::protobuf::SingularPtrField" "none"

/-- The statement that empties a container where it is. -/
def emptying (v : String) : Ty → String
  | .chars => Expr.call "::protobuf::Clear::clear" ("&mut " ++ v)
  | _ => v ++ ".clear()"

/-- It has a default, and is not cleared. -/
inductive IsKept : Ty → Prop
  | message (n : QualName) : IsKept (.message n)
  | strRef : IsKept (.ref .str)
  | sliceRef (x : Ty) : IsKept (.ref (.slice x))
  | messageRef (n : QualName) : IsKept (.ref (.message n))

variable {t : Ty} {path function : String}

/-! ## The four sorts -/

theorem sort_cases (t : Ty) :
    t.IsOverwritten ∨ (∃ path function, t.Container path function) ∨ t.IsKept ∨
      t.defaultValue = .error (.unanswerable .default t) ∧
        ∀ v, t.clear v = .error (.unanswerable .clear t) := by
  cases t with
  | int | float | bool | enum | openEnum => exact .inl (.inl rfl)
  | option inner => exact .inl (.inr ⟨inner, rfl⟩)
  | string => exact .inr (.inl ⟨_, _, .string⟩)
  | bytes => exact .inr (.inl ⟨_, _, .bytes⟩)
  | chars => exact .inr (.inl ⟨_, _, .chars⟩)
  | vec x => exact .inr (.inl ⟨_, _, .vec x⟩)
  | hashMap k x => exact .inr (.inl ⟨_, _, .hashMap k x⟩)
  | repeatedField x => exact .inr (.inl ⟨_, _, .repeatedField x⟩)
  | singularField x => exact .inr (.inl ⟨_, _, .singularField x⟩)
  | singularPtrField x => exact .inr (.inl ⟨_, _, .singularPtrField x⟩)
  | message n => exact .inr (.inr (.inl (.message n)))
  | str | slice | box | oneof | group => exact .inr (.inr (.inr ⟨rfl, fun _ => rfl⟩))
  | ref inner =>
    cases inner with
    | str => exact .inr (.inr (.inl .strRef))
    | slice x => exact .inr (.inr (.inl (.sliceRef x)))
    | message n => exact .inr (.inr (.inl (.messageRef n)))
    | _ => exact .inr (.inr (.inr ⟨rfl, fun _ => rfl⟩))

theorem IsOverwritten.exists_default (h : t.IsOverwritten) :
    ∃ d, t.defaultValue = .ok d ∧ ∀ v, t.clear v = .ok (v ++ " = " ++ d) := by
  rcases h with hcopy | ⟨inner, rfl⟩
  · cases t with
    | int | float | bool | enum | openEnum => exact ⟨_, rfl, fun _ => rfl⟩
    | _ => cases hcopy
  · exact ⟨_, rfl, fun v => by rw [String.append_assoc]; rfl⟩

namespace Container

/-- The name is the one that the type is spelled with. -/
theorem text_cases (h : t.Container path function) :
    t.text = path ∨ ∃ arguments, t.text = applied path arguments := by
  cases h with
  | string | bytes | chars => exact .inl rfl
  | vec | hashMap | repeatedField | singularField | singularPtrField => exact .inr ⟨_, rfl⟩

theorem defaultValue_eq (h : t.Container path function) :
    t.defaultValue = .ok (path ++ "::" ++ function ++ "()") := by
  cases h <;> rfl

theorem clear_eq (h : t.Container path function) (v : String) :
    t.clear v = .ok (t.emptying v) := by
  cases h with
  | chars => simp [clear, emptying, Expr.call, ← String.append_assoc]
  | _ => rfl

/-- Emptying a container is no assignment, whatever the text of the variable. -/
theorem emptying_ne_assignment (h : t.Container path function) (v : String) :
    t.emptying v ≠ v ++ " = " ++ (path ++ "::" ++ function ++ "()") := by
  intro heq
  cases h with
  | chars =>
    -- the two texts differ in length
    have hlength := congrArg String.length heq
    simp only [emptying, Expr.call, String.length_append] at hlength
    change 24 + 1 + (5 + v.length) + 1 = v.length + 3 + (17 + 2 + 3 + 2) at hlength
    omega
  | _ =>
    change v ++ ".clear()" = _ at heq
    rw [String.append_assoc, String.append_right_inj] at heq
    exact absurd heq (by decide)

theorem not_isOverwritten (h : t.Container path function) : ¬ t.IsOverwritten := by
  rintro (hcopy | ⟨inner, hoption⟩)
  · cases h <;> cases hcopy
  · cases h <;> cases hoption

end Container

theorem IsKept.exists_default (h : t.IsKept) : ∃ d, t.defaultValue = .ok d := by
  cases h <;> exact ⟨_, rfl⟩

theorem IsKept.clear_eq (h : t.IsKept) (v : String) :
    t.clear v = .error (.unanswerable .clear t) := by
  cases h <;> rfl

/-! ## Defaults and clearing -/

variable {v statement : String} {e : Error}

/-- What clears a variable assigns the default or empties a container, and never both. -/
theorem exists_default_of_clear (h : t.clear v = .ok statement) :
    ∃ d, t.defaultValue = .ok d ∧ (statement = v ++ " = " ++ d ↔ t.IsOverwritten) ∧
      (t.IsOverwritten ∨ statement = t.emptying v ∧ ∃ path function, t.Container path function ∧
        (t.text = path ∨ ∃ arguments, t.text = applied path arguments) ∧
        d = path ++ "::" ++ function ++ "()") := by
  rcases sort_cases t with ht | ⟨path, function, ht⟩ | ht | ⟨-, hclear⟩
  · obtain ⟨d, hdefault, hclear⟩ := ht.exists_default
    rw [hclear, Except.ok.injEq] at h
    exact ⟨d, hdefault, by simp [h, ht], .inl ht⟩
  · rw [ht.clear_eq, Except.ok.injEq] at h
    subst h
    exact ⟨_, ht.defaultValue_eq, by simp [ht.emptying_ne_assignment, ht.not_isOverwritten],
      .inr ⟨rfl, path, function, ht, ht.text_cases, rfl⟩⟩
  · rw [ht.clear_eq] at h
    cases h
  · rw [hclear] at h
    cases h

/-- A variable that is not cleared is one that is kept, or there is no default for it. -/
theorem refused_of_clear (h : t.clear v = .error e) :
    e = .unanswerable .clear t ∧
      (t.IsKept ∨ t.defaultValue = .error (.unanswerable .default t)) := by
  rcases sort_cases t with ht | ⟨path, function, ht⟩ | ht | ⟨hdefault, hclear⟩
  · obtain ⟨d, -, hclear⟩ := ht.exists_default
    rw [hclear] at h
    cases h
  · rw [ht.clear_eq] at h
    cases h
  · rw [ht.clear_eq, Except.error.injEq] at h
    exact ⟨h.symm, .inl ht⟩
  · rw [hclear, Except.error.injEq] at h
    exact ⟨h.symm, .inr hdefault⟩

theorem eq_unanswerable_of_defaultValue (h : t.defaultValue = .error e) :
    e = .unanswerable .default t := by
  unfold defaultValue at h
  split at h <;> cases h
  rfl

theorem isKept_iff (t : Ty) (v : String) :
    ((∃ d, t.defaultValue = .ok d) ∧ ∃ e, t.clear v = .error e) ↔ t.IsKept := by
  constructor
  · rintro ⟨⟨d, hd⟩, e, he⟩
    refine (refused_of_clear he).2.resolve_right fun hdefault => ?_
    rw [hd] at hdefault
    cases hdefault
  · intro h
    exact ⟨h.exists_default, _, h.clear_eq v⟩

/-- A variable is cleared by the assignment of its default, where that is copied or optional, or
    else by emptying a container, whose default is an empty one. What has a default and is not
    cleared is what is kept; whatever else is not cleared has no default. A refusal names the
    question and the type. -/
theorem clearing_restores_the_default (t : Ty) (v : String) :
    (∀ statement, t.clear v = .ok statement →
      ∃ d, t.defaultValue = .ok d ∧ (statement = v ++ " = " ++ d ↔ t.IsOverwritten) ∧
        (t.IsOverwritten ∨ statement = t.emptying v ∧ ∃ path function, t.Container path function ∧
          (t.text = path ∨ ∃ arguments, t.text = applied path arguments) ∧
          d = path ++ "::" ++ function ++ "()")) ∧
    (((∃ d, t.defaultValue = .ok d) ∧ ∃ e, t.clear v = .error e) ↔ t.IsKept) ∧
    (∀ e, t.clear v = .error e → ¬ t.IsKept → ∃ e', t.defaultValue = .error e') ∧
    (∀ e, t.clear v = .error e → e.message = "cannot compute clear for type: " ++ t.text) ∧
    (∀ e, t.defaultValue = .error e →
      e.message = "cannot compute default value for type: " ++ t.text) := by
  refine ⟨fun _ h => exists_default_of_clear h, isKept_iff t v, fun e h hkept => ?_,
    fun e h => ?_, fun e h => ?_⟩
  · exact ⟨_, (refused_of_clear h).2.resolve_left hkept⟩
  · rw [(refused_of_clear h).1]
    rfl
  · rw [eq_unanswerable_of_defaultValue h]
    rfl

/-- Shared text is emptied by a function that takes the variable, here one without a name; a box
    is neither cleared nor has a default, though what is in it has one. -/
theorem clearing_restores_the_default_of_shared_text_and_not_of_boxes :
    let emptied := "::protobuf::Clear::clear(&mut )"
    let boxed : Ty := .box .chars
    Ty.chars.clear "" = .ok emptied ∧ emptied ≠ " = ::protobuf::Chars::new()" ∧
      (∃ d, Ty.chars.defaultValue = .ok d ∧ (emptied = "" ++ " = " ++ d ↔ Ty.chars.IsOverwritten)) ∧
      boxed.clear "v" = .error (.unanswerable .clear boxed) ∧ ¬ boxed.IsKept ∧
      (∃ e, boxed.defaultValue = .error e ∧
        e.message = "cannot compute default value for type: ::std::boxed::Box<::protobuf::Chars>") ∧
      (Error.unanswerable .clear boxed).message =
        "cannot compute clear for type: ::std::boxed::Box<::protobuf::Chars>" := by
  intro emptied boxed
  have hchars : Ty.chars.clear "" = .ok emptied := rfl
  have hbox : boxed.clear "v" = .error (.unanswerable .clear boxed) := rfl
  have hkept : ¬ (Ty.box .chars).IsKept := nofun
  obtain ⟨d, hd, hassigned, -⟩ := (clearing_restores_the_default .chars "").1 _ hchars
  obtain ⟨-, -, hnone, hclear, hdefault⟩ := clearing_restores_the_default boxed "v"
  obtain ⟨e, he⟩ := hnone _ hbox hkept
  exact ⟨hchars, by decide, ⟨d, hd, hassigned⟩, hbox, hkept, ⟨e, he, hdefault e he⟩, hclear _ hbox⟩

end RustSchema.Ty
