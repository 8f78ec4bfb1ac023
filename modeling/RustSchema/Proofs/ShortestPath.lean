/-
  RustSchema.Proofs.ShortestPath — no other walk between two modules is as short.

  A walk may wander: up past the module where the ways part, down into modules it leaves
  again. What is left to go from a module is `ModPath.route`, and a step changes it at one
  place only: the step is the first of what was left, or the step back is the first of what is
  left now (`route_of_step`). So a step brings the destination nearer by one or farther by one,
  a walk that gets there is at least as long as the route (`length_route_le_of_walk`), and one
  that is no longer takes the steps of the route one by one (`eq_route_of_walk`).

  `the_shortest_path_is_the_only_one`: between relative modules the path leads from one to the
  other, is shorter than every other that does, and saves two steps for each segment of the
  longest beginning that both share; an absolute destination is its own path, and nothing fails
  but a relative destination from an absolute source.
-/

import RustSchema.Proofs.ModuleTree

namespace RustSchema.ModPath

/-- The steps that lead from one module to the other: up to where they part, then down. -/
def route (here dest : List String) : List String :=
  List.replicate (fork here dest).1.length superSegment ++ (fork here dest).2

/-- Both lists begin with it, and with nothing longer. -/
structure IsLongestShared (shared source dest : List String) : Prop where
  begins_source : shared <+: source
  begins_dest : shared <+: dest
  longest : ∀ other, other <+: source → other <+: dest → other.length ≤ shared.length

variable {here there dest path : List String} {segment : String}

/-! ## One step -/

theorem route_self (dest : List String) : route dest dest = [] := by
  have hfork : fork dest dest = ([], []) := by
    induction dest with
    | nil => rfl
    | cons segment rest ih => rw [fork, if_pos rfl, ih]
  simp [route, hfork]

/-- A module one deeper is one step nearer to what lies behind it, and one farther from all
    else. -/
theorem fork_concat (here dest : List String) (segment : String) :
    (∃ down, fork here dest = ([], segment :: down) ∧
      fork (here ++ [segment]) dest = ([], down)) ∨
    fork (here ++ [segment]) dest = ((fork here dest).1 ++ [segment], (fork here dest).2) := by
  fun_induction fork here dest with
  | case1 source d dest ih =>
    rw [List.cons_append, fork, if_pos rfl]
    exact ih
  | case2 s source d dest hne =>
    right
    rw [List.cons_append, fork, if_neg hne]
  | case3 source dest hstop =>
    -- one of the two has ended
    cases source with
    | cons s source =>
      cases dest with
      | nil => exact .inr rfl
      | cons d dest => exact absurd rfl (hstop s source d dest rfl)
    | nil =>
      cases dest with
      | nil => exact .inr rfl
      | cons d dest =>
        rw [List.nil_append]
        by_cases h : segment = d
        · subst h
          exact .inl ⟨dest, rfl, by simp [fork]⟩
        · exact .inr (by simp [fork, h])

theorem route_concat (here dest : List String) (segment : String) :
    route here dest = segment :: route (here ++ [segment]) dest ∨
      route (here ++ [segment]) dest = superSegment :: route here dest := by
  obtain ⟨down, hnear, hfar⟩ | hfar := fork_concat here dest segment
  · left
    simp [route, hnear, hfar]
  · right
    simp [route, hfar, List.replicate_succ]

theorem walk_step_cases (h : walk here [segment] = some there) :
    (segment = superSegment ∧ ∃ last, here = there ++ [last]) ∨
      (segment ≠ superSegment ∧ there = here ++ [segment]) := by
  by_cases hup : segment = superSegment
  · by_cases htop : here = []
    · simp [walk, hup, htop] at h
    · left
      have hthere : here.dropLast = there := by simpa [walk, hup, htop] using h
      exact ⟨hup, here.getLast htop, by rw [← hthere, List.dropLast_concat_getLast]⟩
  · right
    exact ⟨hup, by simpa [walk, hup, eq_comm] using h⟩

/-- A step is the first of the route, or the step back is the first of the route from there. -/
theorem route_of_step (h : walk here [segment] = some there) (dest : List String) :
    route here dest = segment :: route there dest ∨
      ∃ back, route there dest = back :: route here dest := by
  obtain ⟨rfl, last, rfl⟩ | ⟨-, rfl⟩ := walk_step_cases h
  · obtain hback | hup := route_concat there dest last
    · exact .inr ⟨last, hback⟩
    · exact .inl hup
  · obtain hdown | hback := route_concat here dest segment
    · exact .inl hdown
    · exact .inr ⟨superSegment, hback⟩

/-! ## Whole walks -/

theorem walk_cons_eq_some_iff :
    walk here (segment :: path) = some dest ↔
      ∃ there, walk here [segment] = some there ∧ walk there path = some dest := by
  rw [← List.singleton_append, walk_append, Option.bind_eq_some_iff]

theorem length_route_le_of_walk (h : walk here path = some dest) :
    (route here dest).length ≤ path.length := by
  induction path generalizing here with
  | nil =>
    cases h
    simp [route_self]
  | cons segment rest ih =>
    obtain ⟨there, hstep, hrest⟩ := walk_cons_eq_some_iff.mp h
    have hle := ih hrest
    obtain hnearer | ⟨back, hfarther⟩ := route_of_step hstep dest
    · rw [hnearer, List.length_cons, List.length_cons]
      omega
    · rw [hfarther, List.length_cons] at hle
      rw [List.length_cons]
      omega

theorem eq_route_of_walk (h : walk here path = some dest)
    (hlen : path.length ≤ (route here dest).length) : path = route here dest := by
  induction path generalizing here with
  | nil =>
    cases h
    rw [route_self]
  | cons segment rest ih =>
    obtain ⟨there, hstep, hrest⟩ := walk_cons_eq_some_iff.mp h
    obtain hnearer | ⟨back, hfarther⟩ := route_of_step hstep dest
    · rw [hnearer] at hlen ⊢
      rw [← ih hrest (by simpa using hlen)]
    · -- a step the wrong way, after which what is left is too short
      have hle := length_route_le_of_walk hrest
      rw [hfarther, List.length_cons] at hle
      rw [List.length_cons] at hlen
      omega

/-! ## The shared beginning -/

/-- Where the two lists part they go on differently. -/
theorem fork_heads_ne {source dest up down : List String} {s d : String}
    (h : fork source dest = (s :: up, d :: down)) : s ≠ d := by
  fun_induction fork source dest with
  | case1 source d dest ih => exact ih h
  | case2 s source d dest hne =>
    cases h
    exact hne
  | case3 source dest hstop =>
    cases h
    exact absurd rfl (hstop s up d down rfl)

theorem exists_longest_shared (source dest : List String) :
    ∃ shared, IsLongestShared shared source dest ∧
      source = shared ++ (fork source dest).1 ∧ dest = shared ++ (fork source dest).2 := by
  obtain ⟨shared, hsource, hdest⟩ := fork_parts source dest
  have hbs : shared <+: source := ⟨_, hsource.symm⟩
  have hbd : shared <+: dest := ⟨_, hdest.symm⟩
  refine ⟨shared, ⟨hbs, hbd, fun other hos hod => ?_⟩, hsource, hdest⟩
  by_contra hlonger
  -- a longer one has a segment with which both lists go on
  obtain ⟨tail, rfl⟩ := List.prefix_of_prefix_length_le hbs hos (by omega)
  cases tail with
  | nil => simp at hlonger
  | cons next tail =>
    rw [hsource, List.prefix_append_right_inj] at hos
    rw [hdest, List.prefix_append_right_inj] at hod
    obtain ⟨up, hup⟩ := hos
    obtain ⟨down, hdown⟩ := hod
    exact fork_heads_ne (Prod.ext hup.symm hdown.symm) rfl

/-! ## The path found -/

theorem toward_eq_error_iff {source dest : ModPath} {e : Error} :
    source.toward dest = .error e ↔
      e = .absoluteSource source ∧ source.absolute = true ∧ dest.absolute = false := by
  cases hd : dest.absolute
  · cases hs : source.absolute
    · simp [toward_of_relative hs hd]
    · simp [toward, hs, hd, eq_comm]
  · simp [toward, hd]

/-- Between relative modules the path found leads from one to the other, every other that does
    is longer, and what it saves are the segments that both begin with. An absolute destination
    is its own path, and only a relative one cannot be reached from an absolute source. -/
theorem the_shortest_path_is_the_only_one (source dest : ModPath) :
    (source.absolute = false → dest.absolute = false → superSegment ∉ dest.segments →
      ∃ p, source.toward dest = .ok p ∧ p.absolute = false ∧
        walk source.segments p.segments = some dest.segments ∧
        (∀ path, walk source.segments path = some dest.segments →
          p.segments.length ≤ path.length ∧
            (path.length = p.segments.length → path = p.segments)) ∧
        ∃ shared, IsLongestShared shared source.segments dest.segments ∧
          p.segments.length + 2 * shared.length =
            source.segments.length + dest.segments.length) ∧
    (dest.absolute = true → source.toward dest = .ok dest) ∧
    (∀ e, source.toward dest = .error e ↔
      e = .absoluteSource source ∧ source.absolute = true ∧ dest.absolute = false) := by
  refine ⟨fun hs hd hsuper => ?_, fun hd => by rw [toward, if_pos hd], fun e => toward_eq_error_iff⟩
  obtain ⟨p, hp, hrel, hwalk⟩ := walk_toward hs hd hsuper
  have hroute : p.segments = route source.segments dest.segments := by
    rw [toward_of_relative hs hd] at hp
    cases hp
    rfl
  obtain ⟨shared, hlongest, hsource, hdest⟩ := exists_longest_shared source.segments dest.segments
  refine ⟨p, hp, hrel, by simpa using hwalk [], ?_, shared, hlongest, ?_⟩
  · intro path hpath
    rw [hroute]
    exact ⟨length_route_le_of_walk hpath, fun hlen => eq_route_of_walk hpath (Nat.le_of_eq hlen)⟩
  · have hsourceLen := congrArg List.length hsource
    have hdestLen := congrArg List.length hdest
    rw [List.length_append] at hsourceLen hdestLen
    rw [hroute, route, List.length_append, List.length_replicate]
    omega

/-- Out of a module that is itself called `super` and across to a sibling of the one above it
    there is one walk of three steps and none of fewer. The library is its own path, from which
    nothing relative is reached. -/
theorem the_shortest_path_is_the_only_one_across :
    let source := relative ["shop", "order", "super"]
    let dest := relative ["shop", "cart"]
    let library : ModPath := ⟨true, ["protobuf"]⟩
    (source.absolute = false ∧ dest.absolute = false ∧ superSegment ∉ dest.segments ∧
      library.absolute = true) ∧
    (∀ path, walk ["shop", "order", "super"] path = some ["shop", "cart"] →
      3 ≤ path.length ∧ (path.length = 3 → path = ["super", "super", "cart"])) ∧
    source.toward library = .ok library ∧
    library.toward dest = .error (.absoluteSource library) := by
  intro source dest library
  have hsuper : superSegment ∉ dest.segments := by decide
  obtain ⟨hrel, -, -⟩ := the_shortest_path_is_the_only_one source dest
  obtain ⟨p, hp, -, -, honly, -⟩ := hrel rfl rfl hsuper
  obtain ⟨-, habs, -⟩ := the_shortest_path_is_the_only_one source library
  obtain ⟨-, -, herror⟩ := the_shortest_path_is_the_only_one library dest
  have hfound : source.toward dest = .ok (relative ["super", "super", "cart"]) := by decide
  obtain rfl : relative ["super", "super", "cart"] = p := by simpa [hfound] using hp
  exact ⟨⟨rfl, rfl, hsuper, rfl⟩, honly, habs rfl, (herror _).mpr ⟨rfl, rfl, rfl⟩⟩

end RustSchema.ModPath
