/-
  RustSchema.Proofs.Boxing — boxes in boxes.

  Boxing always succeeds and adds one level, and each level is taken off by one star. A run of
  such steps is followed level by level, for a value of any type, boxed already or not
  (`run_boxed`, `run_outOfBoxes`). No conversion takes off two levels at once: the source is a
  box, and the only types it leads to are itself, what is in it and a box around it; the type in
  two boxes less is none of these, as no type has the size of one that it contains
  (`convert_boxes_of_lt`).

  `boxing_is_undone_level_by_level`: both, for any number of levels.
-/

import Mathlib.Logic.Function.Iterate
import RustSchema.Proofs.Conversion.Domain
import RustSchema.Proofs.TypedRuns

namespace RustSchema

/-! ## Levels -/

theorem Ty.sizeOf_iterate_box (n : Nat) (t : Ty) : sizeOf (Ty.box^[n] t) = n + sizeOf t := by
  induction n with
  | zero => simp
  | succ n ih =>
    rw [Function.iterate_succ_apply', Ty.box.sizeOf_spec, ih]
    omega

theorem Ty.iterate_box_inj {t : Ty} {i j : Nat} : Ty.box^[i] t = Ty.box^[j] t ↔ i = j := by
  refine ⟨fun h => ?_, fun h => by rw [h]⟩
  have hsize := congrArg sizeOf h
  rw [sizeOf_iterate_box, sizeOf_iterate_box] at hsize
  omega

theorem core_box_iff {x target : Ty} :
    Core (.box x) target ↔ target = x ∨ target = .box x ∨ target = .box (.box x) := by
  constructor
  · intro h
    cases h with
    | same => exact .inr (.inl rfl)
    | box => exact .inr (.inr rfl)
    | unbox => exact .inl rfl
  · rintro (rfl | rfl | rfl)
    · exact .unbox _
    · exact .same _
    · exact .box _

/-- No conversion takes off two levels or more. -/
theorem convert_boxes_of_lt {t : Ty} {j k : Nat} (h : j + 2 ≤ k) (value : String) :
    (convert (Ty.box^[k] t) (Ty.box^[j] t) value).result =
      .error (.noConversion (Ty.box^[k] t) (Ty.box^[j] t)) := by
  obtain ⟨i, rfl⟩ : ∃ i, k = i + 1 := ⟨k - 1, by omega⟩
  rw [convert_of_not_core]
  intro n s hs hcore
  rw [Function.iterate_succ_apply'] at hs
  cases n with
  | zero =>
    cases hs
    rw [core_box_iff, ← Function.iterate_succ_apply' Ty.box, ← Function.iterate_succ_apply' Ty.box,
      Ty.iterate_box_inj, Ty.iterate_box_inj, Ty.iterate_box_inj] at hcore
    omega
  | succ n => cases hs

namespace TypedValue

/-- The value in `n` boxes. -/
def inBoxes (n : Nat) (v : TypedValue) : TypedValue :=
  ⟨(Expr.call "::std::boxed::Box::new")^[n] v.value, Ty.box^[n] v.ty⟩

/-- The steps that lead out of `n` boxes around a value of type `t`, one box at a time. -/
def outOfBoxes (t : Ty) : Nat → List Step
  | 0 => []
  | n + 1 => .into (Ty.box^[n] t) :: outOfBoxes t n

/-! ## In and out -/

theorem run_boxed (v : TypedValue) (n : Nat) :
    v.run (List.replicate n .boxed) = (List.range n).map (fun i => .ok (v.inBoxes (i + 1))) ∧
      v.final (List.replicate n .boxed) = v.inBoxes n := by
  induction n generalizing v with
  | zero => exact ⟨rfl, rfl⟩
  | succ n ih =>
    have hstep : v.attempt .boxed = .ok (v.inBoxes 1) := boxed_eq v
    obtain ⟨hrun, hfinal⟩ := ih (v.inBoxes 1)
    rw [List.replicate_succ, run_cons_ok hstep, final_cons_ok hstep, hrun, hfinal,
      List.range_succ_eq_map, List.map_cons, List.map_map]
    exact ⟨rfl, rfl⟩

theorem into_of_box (text : String) (t : Ty) :
    into ⟨text, .box t⟩ t = .ok ⟨"*" ++ text, t⟩ := by
  have hgives : Rule.Gives .unbox (.box t) t (.deref .operand) := .unbox t
  rw [into_of_some (Conversion.find?_of_gives hgives)]
  rfl

/-- Each step out of a box puts a star before the text. -/
theorem run_outOfBoxes (t : Ty) (n : Nat) (text : String) :
    run ⟨text, Ty.box^[n] t⟩ (outOfBoxes t n) =
        (List.range n).map (fun i => .ok ⟨("*" ++ ·)^[i + 1] text, Ty.box^[n - 1 - i] t⟩) ∧
      final ⟨text, Ty.box^[n] t⟩ (outOfBoxes t n) = ⟨("*" ++ ·)^[n] text, t⟩ := by
  induction n generalizing text with
  | zero => exact ⟨rfl, rfl⟩
  | succ n ih =>
    have hstep : attempt ⟨text, Ty.box^[n + 1] t⟩ (.into (Ty.box^[n] t)) =
        .ok ⟨"*" ++ text, Ty.box^[n] t⟩ := by
      rw [Function.iterate_succ_apply']
      exact into_of_box text _
    obtain ⟨hrun, hfinal⟩ := ih ("*" ++ text)
    rw [outOfBoxes, run_cons_ok hstep, final_cons_ok hstep, hrun, hfinal,
      List.range_succ_eq_map, List.map_cons, List.map_map]
    refine ⟨?_, rfl⟩
    congr 1
    refine List.map_congr_left fun i _ => ?_
    simp only [Function.comp_apply, Function.iterate_succ_apply]
    rw [show n + 1 - 1 - (i + 1) = n - 1 - i by omega]

/-- A value of any type is boxed any number of times, and taken out of its boxes one at a time,
    each time with one star more, until it has its type again. From one number of boxes to a
    number that is smaller by two or more there is no conversion. -/
theorem boxing_is_undone_level_by_level (v : TypedValue) (n : Nat) :
    v.run (List.replicate n .boxed ++ outOfBoxes v.ty n) =
      (List.range n).map (fun i => .ok (v.inBoxes (i + 1))) ++
        (List.range n).map (fun i =>
          .ok ⟨("*" ++ ·)^[i + 1] (v.inBoxes n).value, Ty.box^[n - 1 - i] v.ty⟩) ∧
    v.final (List.replicate n .boxed) = v.inBoxes n ∧
    v.final (List.replicate n .boxed ++ outOfBoxes v.ty n) =
      ⟨("*" ++ ·)^[n] (v.inBoxes n).value, v.ty⟩ ∧
    ∀ (j k : Nat) (value : String), j + 2 ≤ k →
      (convert (Ty.box^[k] v.ty) (Ty.box^[j] v.ty) value).result =
        .error (.noConversion (Ty.box^[k] v.ty) (Ty.box^[j] v.ty)) := by
  obtain ⟨hin, hboxed⟩ := run_boxed v n
  obtain ⟨hout, hback⟩ := run_outOfBoxes v.ty n (v.inBoxes n).value
  obtain ⟨hrun, hfinal⟩ := run_append v (List.replicate n .boxed) (outOfBoxes v.ty n)
  refine ⟨?_, hboxed, ?_, fun j k value h => convert_boxes_of_lt h value⟩
  · rw [hrun, hin, hboxed]
    exact congrArg _ hout
  · rw [hfinal, hboxed]
    exact hback

/-- A reference to a box is boxed twice and taken out of both boxes; out of both at once it
    cannot be taken. -/
theorem boxing_is_undone_level_by_level_around_a_reference :
    let t : Ty := .ref (.box .bool)
    let v : TypedValue := ⟨"v", t⟩
    let boxed := "::std::boxed::Box::new(::std::boxed::Box::new(v))"
    v.final [.boxed, .boxed] = ⟨boxed, .box (.box t)⟩ ∧
      v.final [.boxed, .boxed, .into (.box t), .into t] = ⟨"**" ++ boxed, t⟩ ∧ 0 + 2 ≤ 2 ∧
      (convert (.box (.box t)) t boxed).result = .error (.noConversion (.box (.box t)) t) := by
  intro t v boxed
  obtain ⟨-, hin, hout, hdirect⟩ := boxing_is_undone_level_by_level v 2
  exact ⟨hin, hout, Nat.le_refl 2, hdirect 0 2 boxed (Nat.le_refl 2)⟩

end TypedValue

end RustSchema
