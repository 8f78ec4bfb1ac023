/-
  RustSchema.Proofs.TypedRuns — what a run of conversions makes of the value it starts from.

  A step looks at the type of the value only. It succeeds for every text or for none, with one
  expression that the text is put into (`attempt_cases`). So two runs from one type go through
  the same types, with the same failures, whatever the texts (`map_ty_run_eq`), and the
  expressions of the steps that succeed, put into one another, make one expression for the
  whole run (`exists_final_eq`). As an expression has its operand once
  (`Expr.exists_around`), so has the text that the run ends in.

  `a_run_uses_its_operand_once`: the outcomes of a run do not depend on the text it starts
  from, boxing always succeeds, the type at the end is the one that the last successful step
  was to lead to, and the text at the end is the text from the start between two others.
-/

import RustSchema.Proofs.Conversion.Table
import RustSchema.TypedValue

namespace RustSchema

namespace Expr

/-- What stands between two texts does so with more text put on both sides. -/
theorem exists_around_append {f : String → String} (left right : String)
    (h : ∃ before after : String, ∀ operand, f operand = before ++ operand ++ after) :
    ∃ before after : String,
      ∀ operand, left ++ f operand ++ right = before ++ operand ++ after := by
  obtain ⟨before, after, hf⟩ := h
  refine ⟨left ++ before, after ++ right, fun operand => ?_⟩
  rw [hf]
  simp only [String.append_assoc]

/-- The text of an expression is that of its operand between two others. -/
theorem exists_around (e : Expr) :
    ∃ before after : String, ∀ operand, e.render operand = before ++ operand ++ after := by
  induction e with
  | operand => exact ⟨"", "", fun operand => by simp [render]⟩
  | deref e ih => simpa [render] using exists_around_append "*" "" ih
  | borrow e ih => simpa [render] using exists_around_append "&" "" ih
  | toOwned e ih => simpa [render] using exists_around_append "" ".to_owned()" ih
  | toVec e ih => simpa [render] using exists_around_append "" ".to_vec()" ih
  | box e ih | toChars e ih | toBytes e ih | enumNumber e ih | openEnumNumber e ih
  | knownOrDefault e ih | toOpenEnum e ih => exact exists_around_append (_ ++ "(") ")" ih

end Expr

namespace TypedValue

/-- The type that a step is to lead to, from a value of type `ty`. -/
def Step.target (ty : Ty) : Step → Ty
  | .into target => target
  | .boxed => .box ty

/-- The value that a run ends in: the last one that a step gave, if any did. -/
def final (v : TypedValue) (steps : List Step) : TypedValue :=
  ((v.run steps).filterMap Except.toOption).getLast?.getD v

variable {v w : TypedValue} {step : Step} {rest : List Step} {e : Error}

/-! ## One step -/

theorem into_of_some {target : Ty} {conversion : Conversion}
    (h : Conversion.find? v.ty target = some conversion) :
    v.into target = .ok ⟨conversion.expr.render v.value, target⟩ := by
  rw [into, convert_of_some h]
  rfl

theorem into_of_none {target : Ty} (h : Conversion.find? v.ty target = none) :
    v.into target = .error (.noConversion v.ty target) := by
  rw [into, convert_of_none h]
  rfl

theorem into_eq_ok_iff {target : Ty} :
    v.into target = .ok w ↔ ∃ conversion, Conversion.find? v.ty target = some conversion ∧
      w = ⟨conversion.expr.render v.value, target⟩ := by
  cases hfind : Conversion.find? v.ty target with
  | some conversion => simp [into_of_some hfind, eq_comm]
  | none => simp [into_of_none hfind]

theorem attempt_eq (v : TypedValue) (step : Step) : v.attempt step = v.into (step.target v.ty) := by
  cases step <;> rfl

/-- A step succeeds for every text of the value or for none. -/
theorem attempt_cases (ty : Ty) (step : Step) :
    (∃ e : Expr, ∀ value, attempt ⟨value, ty⟩ step = .ok ⟨e.render value, step.target ty⟩) ∨
      ∀ value, attempt ⟨value, ty⟩ step = .error (.noConversion ty (step.target ty)) := by
  cases hfind : Conversion.find? ty (step.target ty) with
  | some conversion =>
    refine .inl ⟨conversion.expr, fun value => ?_⟩
    rw [attempt_eq, into_of_some hfind]
  | none =>
    refine .inr fun value => ?_
    rw [attempt_eq, into_of_none hfind]

theorem ty_of_attempt (h : v.attempt step = .ok w) : w.ty = step.target v.ty := by
  rw [attempt_eq, into_eq_ok_iff] at h
  obtain ⟨conversion, -, rfl⟩ := h
  rfl

theorem boxed_eq (v : TypedValue) :
    v.boxed = .ok ⟨(Expr.box .operand).render v.value, .box v.ty⟩ :=
  into_of_some (Conversion.find?_of_gives (.box v.ty))

/-! ## Runs -/

theorem run_cons_ok (h : v.attempt step = .ok w) : v.run (step :: rest) = .ok w :: w.run rest := by
  rw [run, h]
  rfl

theorem run_cons_error (h : v.attempt step = .error e) :
    v.run (step :: rest) = .error e :: v.run rest := by
  rw [run, h]
  rfl

theorem final_cons_ok (h : v.attempt step = .ok w) : v.final (step :: rest) = w.final rest := by
  rw [final, run_cons_ok h]
  simp [Except.toOption, List.getLast?_cons, final]

theorem final_cons_error (h : v.attempt step = .error e) :
    v.final (step :: rest) = v.final rest := by
  rw [final, run_cons_error h]
  simp [Except.toOption, final]

/-- A run goes on from the value that the steps so far end in. -/
theorem run_append (v : TypedValue) (first second : List Step) :
    v.run (first ++ second) = v.run first ++ (v.final first).run second ∧
      v.final (first ++ second) = (v.final first).final second := by
  induction first generalizing v with
  | nil => exact ⟨rfl, rfl⟩
  | cons step rest ih =>
    cases hstep : v.attempt step with
    | ok w =>
      rw [List.cons_append, run_cons_ok hstep, run_cons_ok hstep, final_cons_ok hstep,
        final_cons_ok hstep, (ih w).1, (ih w).2, List.cons_append]
      exact ⟨rfl, rfl⟩
    | error e =>
      rw [List.cons_append, run_cons_error hstep, run_cons_error hstep, final_cons_error hstep,
        final_cons_error hstep, (ih v).1, (ih v).2, List.cons_append]
      exact ⟨rfl, rfl⟩

/-- Each step starts from the value that the steps before it end in. -/
theorem getElem?_run (v : TypedValue) (steps : List Step) (i : Nat) :
    (v.run steps)[i]? = steps[i]?.map fun step => (v.final (steps.take i)).attempt step := by
  induction steps generalizing v i with
  | nil => simp [run]
  | cons step rest ih =>
    cases i with
    | zero => simp [run, final]
    | succ i =>
      cases hstep : v.attempt step with
      | ok w =>
        rw [run_cons_ok hstep, List.take_succ_cons, final_cons_ok hstep]
        exact ih w i
      | error e =>
        rw [run_cons_error hstep, List.take_succ_cons, final_cons_error hstep]
        exact ih v i

/-- What the steps of a run give does not depend on the text, apart from the texts. -/
theorem map_ty_run_eq (start : Ty) (steps : List Step) (value value' : String) :
    (run ⟨value, start⟩ steps).map (Except.map TypedValue.ty) =
      (run ⟨value', start⟩ steps).map (Except.map TypedValue.ty) := by
  induction steps generalizing start value value' with
  | nil => rfl
  | cons step rest ih =>
    rcases attempt_cases start step with ⟨e, hok⟩ | herror
    · rw [run_cons_ok (hok value), run_cons_ok (hok value'), List.map_cons, List.map_cons,
        ih (step.target start)]
      rfl
    · rw [run_cons_error (herror value), run_cons_error (herror value'), List.map_cons,
        List.map_cons, ih start]

/-- A run ends in one type and one expression for every text. -/
theorem exists_final_eq (start : Ty) (steps : List Step) :
    ∃ (e : Expr) (ty : Ty), ∀ value, final ⟨value, start⟩ steps = ⟨e.render value, ty⟩ := by
  induction steps generalizing start with
  | nil => exact ⟨.operand, start, fun value => rfl⟩
  | cons step rest ih =>
    rcases attempt_cases start step with ⟨e, hok⟩ | herror
    · obtain ⟨e', ty, hrest⟩ := ih (step.target start)
      refine ⟨Expr.plug e e', ty, fun value => ?_⟩
      rw [final_cons_ok (hok value), hrest, Expr.render_plug]
    · obtain ⟨e', ty, hrest⟩ := ih start
      refine ⟨e', ty, fun value => ?_⟩
      rw [final_cons_error (herror value), hrest]

/-- The `i`-th step gave `w`, and no later one succeeded. -/
def LastSuccess (outcomes : List (Except Error TypedValue)) (i : Nat) (w : TypedValue) : Prop :=
  outcomes[i]? = some (Except.ok w) ∧ ∀ j, i < j → ∀ u, outcomes[j]? ≠ some (Except.ok u)

theorem LastSuccess.cons {outcomes : List (Except Error TypedValue)} {i : Nat}
    (h : LastSuccess outcomes i w) (outcome : Except Error TypedValue) :
    LastSuccess (outcome :: outcomes) (i + 1) w := by
  refine ⟨h.1, fun j hj => ?_⟩
  cases j with
  | zero => exact absurd hj (Nat.not_lt_zero _)
  | succ j => exact h.2 j (Nat.lt_of_succ_lt_succ hj)

/-- No step succeeds and the run ends where it started, or it ends in what the last successful
    step gave. -/
theorem final_cases (v : TypedValue) (steps : List Step) :
    (∀ (i : Nat) (u : TypedValue), (v.run steps)[i]? ≠ some (Except.ok u)) ∧ v.final steps = v ∨
      ∃ i, LastSuccess (v.run steps) i (v.final steps) := by
  induction steps generalizing v with
  | nil => exact .inl ⟨by simp [run], rfl⟩
  | cons step rest ih =>
    cases hstep : v.attempt step with
    | ok w =>
      rw [run_cons_ok hstep, final_cons_ok hstep]
      right
      rcases ih w with ⟨hnone, hfinal⟩ | ⟨i, hlast⟩
      · refine ⟨0, by rw [hfinal]; rfl, fun j hj => ?_⟩
        obtain ⟨j, rfl⟩ := Nat.exists_eq_add_one.mpr hj
        exact hnone j
      · exact ⟨i + 1, hlast.cons _⟩
    | error e =>
      rw [run_cons_error hstep, final_cons_error hstep]
      rcases ih v with ⟨hnone, hfinal⟩ | ⟨i, hlast⟩
      · refine .inl ⟨fun i => ?_, hfinal⟩
        cases i with
        | zero => simp
        | succ i => exact hnone i
      · exact .inr ⟨i + 1, hlast.cons _⟩

/-- What the steps of a run give, apart from the texts, does not depend on the text it starts
    from, and boxing always succeeds. The run ends in the type that the last successful step
    was to lead to, from the value the steps before it end in, or in the type it starts from
    where no step succeeds; and in the text it starts from, between two others that the types
    and steps determine. -/
theorem a_run_uses_its_operand_once (start : Ty) (steps : List Step) :
    (∀ value value', (run ⟨value, start⟩ steps).map (Except.map TypedValue.ty) =
      (run ⟨value', start⟩ steps).map (Except.map TypedValue.ty)) ∧
    (∀ (value : String) (i : Nat), steps[i]? = some Step.boxed →
      ∃ w, (run ⟨value, start⟩ steps)[i]? = some (Except.ok w)) ∧
    (∀ value : String,
      (∀ (i : Nat) (u : TypedValue), (run ⟨value, start⟩ steps)[i]? ≠ some (Except.ok u)) ∧
          (final ⟨value, start⟩ steps).ty = start ∨
        ∃ (i : Nat) (step : Step), steps[i]? = some step ∧
          LastSuccess (run ⟨value, start⟩ steps) i (final ⟨value, start⟩ steps) ∧
          (final ⟨value, start⟩ steps).ty =
            step.target (final ⟨value, start⟩ (steps.take i)).ty) ∧
    ∃ before after : String, ∀ value,
      (final ⟨value, start⟩ steps).value = before ++ value ++ after := by
  refine ⟨map_ty_run_eq start steps, fun value i hboxed => ?_, fun value => ?_, ?_⟩
  · rw [getElem?_run, hboxed]
    exact ⟨_, congrArg some (boxed_eq _)⟩
  · rcases final_cases ⟨value, start⟩ steps with ⟨hnone, hfinal⟩ | ⟨i, hlast⟩
    · exact .inl ⟨hnone, by rw [hfinal]⟩
    · have hattempt := hlast.1
      rw [getElem?_run] at hattempt
      obtain ⟨step, hstep, hok⟩ := Option.map_eq_some_iff.mp hattempt
      exact .inr ⟨i, step, hstep, hlast, ty_of_attempt hok⟩
  · obtain ⟨e, ty, hfinal⟩ := exists_final_eq start steps
    obtain ⟨before, after, hrender⟩ := e.exists_around
    exact ⟨before, after, fun value => by rw [hfinal, hrender]⟩

/-- A conversion to a number in between fails and changes nothing; the last step boxes what is
    there, and the empty text is put where every other would be. -/
theorem a_run_uses_its_operand_once_when_empty :
    let steps : List Step := [.into (.ref .str), .into Ty.i32, .boxed]
    let last : TypedValue := ⟨"::std::boxed::Box::new(&)", .box (.ref .str)⟩
    steps[2]? = some Step.boxed ∧
      (∃ w, (run ⟨"", .string⟩ steps)[2]? = some (Except.ok w)) ∧
      final ⟨"", .string⟩ steps = last ∧
      ∃ before after : String, before ++ "" ++ after = last.value ∧
        ∀ value, (final ⟨value, .string⟩ steps).value = before ++ value ++ after := by
  intro steps last
  have hempty : final ⟨"", .string⟩ steps = last := by decide
  obtain ⟨-, hboxed, -, before, after, h⟩ := a_run_uses_its_operand_once .string steps
  refine ⟨rfl, hboxed "" 2 rfl, hempty, before, after, ?_, h⟩
  rw [← h "", hempty]

end TypedValue

end RustSchema
