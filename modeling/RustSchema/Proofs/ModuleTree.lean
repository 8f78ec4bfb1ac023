/-
  RustSchema.Proofs.ModuleTree — walks in the tree of modules.

  A walk splits where its path does (`walk_append`). As many steps up as a module lies below
  another lead to that other (`walk_up`), and segments other than `super` lead down
  (`walk_down`). The shortest path between two modules is made of exactly these two: up from
  the source to where the paths part, then down to the destination; so it leads there from
  wherever in the tree both paths begin (`walk_toward`).
-/

import Mathlib.Data.List.Induction
import RustSchema.ModPath.Travel

namespace RustSchema.ModPath

/-! ## Steps up and down -/

theorem walk_append (here p q : List String) :
    walk here (p ++ q) = (walk here p).bind fun there => walk there q := by
  induction p generalizing here with
  | nil => rfl
  | cons segment rest ih =>
    simp only [List.cons_append, walk, ih]
    split
    · split <;> rfl
    · rfl

/-- One step up for each segment of `up` leaves it. -/
theorem walk_up (home up : List String) :
    walk (home ++ up) (List.replicate up.length superSegment) = some home := by
  -- from the end of `up`, as a step up leaves the last module entered
  induction up using List.reverseRecOn with
  | nil => simp [walk]
  | append_singleton init last ih =>
    rw [List.length_append, List.length_singleton, List.replicate_succ, ← List.append_assoc, walk,
      if_pos rfl, if_neg (by simp), List.dropLast_concat, ih]

theorem walk_down {down : List String} (h : superSegment ∉ down) (here : List String) :
    walk here down = some (here ++ down) := by
  induction down generalizing here with
  | nil => simp [walk]
  | cons segment rest ih =>
    simp only [List.mem_cons, not_or] at h
    rw [walk, if_neg (Ne.symm h.1), ih h.2, List.append_assoc, List.singleton_append]

theorem walk_up_down (home up : List String) {down : List String} (h : superSegment ∉ down) :
    walk (home ++ up) (List.replicate up.length superSegment ++ down) = some (home ++ down) := by
  rw [walk_append, walk_up, Option.bind_some, walk_down h]

/-! ## The shortest path -/

/-- What is left out is a beginning that both lists have. -/
theorem fork_parts (source dest : List String) :
    ∃ common, source = common ++ (fork source dest).1 ∧ dest = common ++ (fork source dest).2 := by
  fun_induction fork source dest with
  | case1 source d dest ih =>
    obtain ⟨common, hs, hd⟩ := ih
    exact ⟨d :: common, congrArg _ hs, congrArg _ hd⟩
  | case2 => exact ⟨[], rfl, rfl⟩
  | case3 => exact ⟨[], rfl, rfl⟩

theorem toward_of_relative {source dest : ModPath} (hs : source.absolute = false)
    (hd : dest.absolute = false) :
    source.toward dest =
      .ok (relative (List.replicate (fork source.segments dest.segments).1.length superSegment
        ++ (fork source.segments dest.segments).2)) := by
  simp [toward, hs, hd, append, relative, ascent]

/-- Between two modules below `top` the shortest path leads from one to the other. -/
theorem walk_toward {source dest : ModPath} (hs : source.absolute = false)
    (hd : dest.absolute = false) (h : superSegment ∉ dest.segments) :
    ∃ p, source.toward dest = .ok p ∧ p.absolute = false ∧
      ∀ top, walk (top ++ source.segments) p.segments = some (top ++ dest.segments) := by
  refine ⟨_, toward_of_relative hs hd, rfl, fun top => ?_⟩
  obtain ⟨common, hsource, hdest⟩ := fork_parts source.segments dest.segments
  have hdown : superSegment ∉ (fork source.segments dest.segments).2 := by
    intro hm
    rw [hdest] at h
    exact h (List.mem_append_right _ hm)
  have hwalk := walk_up_down (top ++ common) (fork source.segments dest.segments).1 hdown
  rwa [List.append_assoc, List.append_assoc, ← hsource, ← hdest] at hwalk

end RustSchema.ModPath
