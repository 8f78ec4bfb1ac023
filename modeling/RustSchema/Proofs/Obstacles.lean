/-
  RustSchema.Proofs.Obstacles — when a field has no element type.

  Fields of primitive kinds and groups always have one. A field of a named kind has one unless
  an obstacle stands: it names nothing, or nothing that is declared, or something of the wrong
  sort; or its site is one that no name of the declaring file can be written at; or it names an
  enum without values. `Blocks` says when each of them stands, on its own, and how it is
  reported. Several may stand at once, and then it is the first of them that is reported
  (`result_of_isFirst`). As obstacles are ranked, some obstacle is first if any stands
  (`exists_isFirst`); and with none there is a type (`exists_ty_of_no_obstacle`).

  `the_first_obstacle_is_reported`: both, for every schema, field, site and options.
-/

import Mathlib.Order.WellFounded
import RustSchema.Proofs.Lookup
import RustSchema.Proofs.Naming
import RustSchema.Proofs.Storage

namespace RustSchema.Field

/-- What can keep a field of a named kind from having an element type. -/
inductive Obstacle where
  | noTypeName
  | undeclared
  | wrongSort
  | absoluteSite
  | noValues
  deriving DecidableEq, Repr

/-- The place among the obstacles, in the order in which they are noticed. -/
def Obstacle.rank : Obstacle → Nat
  | .noTypeName => 0
  | .undeclared => 1
  | .wrongSort => 2
  | .absoluteSite => 3
  | .noValues => 4

/-- The type name of the field finds the declaration. -/
def Finds (field : Field) (files : List FileDecl) (d : Declared) : Prop :=
  ∃ typeName, field.typeName = some typeName ∧ (Scope.ofFiles files).find typeName = .ok d

/-- The obstacle stands, and this is how it is reported. -/
inductive Blocks (files : List FileDecl) (field : Field) (site : Site) : Obstacle → Error → Prop
  | noTypeName : field.typeName = none ∨ field.typeName = some "" →
      Blocks files field site .noTypeName (.noTypeName field.name field.kind)
  | undeclared (typeName : String) : field.typeName = some typeName →
      (∀ d ∈ Scope.declared files, d.absoluteName ≠ typeName) →
      Blocks files field site .undeclared (.undeclared typeName)
  | wrongSort (typeName : String) (d : Declared) : field.typeName = some typeName →
      (Scope.ofFiles files).find typeName = .ok d →
      d.sort = .enum ∧ field.kind = .message ∨ d.sort = .message ∧ field.kind = .enum →
      Blocks files field site .wrongSort (.wrongSort field.name typeName field.wantedSort)
  | absoluteSite (d : Declared) : field.Finds files d → d.file.name = site.file →
      site.within.absolute = true →
      Blocks files field site .absoluteSite (.absoluteSource site.within)
  | noValues (d : Declared) (decl : EnumDecl) : field.Finds files d → field.kind = .enum →
      d.definition = .enum decl → decl.values = [] →
      Blocks files field site .noValues (.noValues d.absoluteName)

/-- The obstacle stands, and none before it does. -/
def IsFirst (files : List FileDecl) (field : Field) (site : Site) (o : Obstacle) (e : Error) :
    Prop :=
  Blocks files field site o e ∧ ∀ p e', Blocks files field site p e' → o.rank ≤ p.rank

variable {files : List FileDecl} {field : Field} {site : Site} {options : Options} {d : Declared}
  {o : Obstacle} {e : Error}

/-! ## Behind the first obstacles -/

/-- Where any obstacle stands, one of those that stand is first. -/
theorem exists_isFirst (h : Blocks files field site o e) :
    ∃ p e', IsFirst files field site p e' := by
  obtain ⟨p, ⟨e', hp⟩, hmin⟩ := (InvImage.wf Obstacle.rank Nat.lt_wfRel.wf).has_min
    {p | ∃ e', Blocks files field site p e'} ⟨o, e, h⟩
  exact ⟨p, e', hp, fun q e'' hq => Nat.le_of_not_lt (hmin q ⟨e'', hq⟩)⟩

/-- What is found has a name that starts with a dot. -/
theorem ne_empty_of_find {typeName : String}
    (hfind : (Scope.ofFiles files).find typeName = .ok d) : typeName ≠ "" := by
  rw [Scope.find_eq_ok_iff, Scope.find?_ofFiles] at hfind
  obtain ⟨-, rfl⟩ := Scope.mem_of_lastNamed hfind
  intro hempty
  simpa [Declared.absoluteName] using congrArg String.toList hempty

theorem Finds.unique {d' : Declared} (h : field.Finds files d) (h' : field.Finds files d') :
    d = d' := by
  obtain ⟨typeName, ht, hfind⟩ := h
  obtain ⟨other, hother, hfind'⟩ := h'
  obtain rfl : typeName = other := Option.some.inj (ht.symm.trans hother)
  exact Except.ok.inj (hfind.symm.trans hfind')

theorem sort_eq_wantedSort (hk : field.kind = .message ∨ field.kind = .enum)
    (h : ¬ (d.sort = .enum ∧ field.kind = .message ∨ d.sort = .message ∧ field.kind = .enum)) :
    d.sort = field.wantedSort := by
  unfold wantedSort
  rcases hk with hk | hk <;> cases hd : d.sort <;> simp_all

theorem sort_ne_wantedSort
    (h : d.sort = .enum ∧ field.kind = .message ∨ d.sort = .message ∧ field.kind = .enum) :
    d.sort ≠ field.wantedSort := by
  unfold wantedSort
  rcases h with ⟨hd, hk⟩ | ⟨hd, hk⟩ <;> simp [hd, hk]

/-- Behind the first three obstacles the declaration is found. -/
theorem declaration_of_finds (hk : field.kind = .message ∨ field.kind = .enum)
    (hd : field.Finds files d) (hsort : ∀ e', ¬ Blocks files field site .wrongSort e') :
    field.declaration (.ofFiles files) = .ok d := by
  obtain ⟨typeName, ht, hfind⟩ := hd
  refine declaration_of_found ht (ne_empty_of_find hfind) (Scope.find_eq_ok_iff.mp hfind)
    (sort_eq_wantedSort hk fun hwrong => ?_)
  exact hsort _ (.wrongSort typeName d ht hfind hwrong)

theorem exists_name_of_finds (hd : field.Finds files d)
    (hsite : ∀ e', ¬ Blocks files field site .absoluteSite e') :
    ∃ name, (d.nameAt site).result = .ok name := by
  apply Declared.exists_nameAt
  intro hfile
  by_contra hs
  exact hsite _ (.absoluteSite d hd hfile (by simpa using hs))

/-- What can stand in the way once a declaration of the right sort is found. -/
theorem obstacle_of_found (hd : field.Finds files d) (hsort : d.sort = field.wantedSort)
    (h : Blocks files field site o e) :
    o = .absoluteSite ∧ d.file.name = site.file ∧ site.within.absolute = true ∨
      o = .noValues ∧ field.kind = .enum := by
  have ⟨typeName, ht, hfind⟩ := hd
  cases h with
  | noTypeName hnone =>
    rw [ht] at hnone
    exact absurd hnone (by simp [ne_empty_of_find hfind])
  | undeclared other hother hnone =>
    obtain rfl : typeName = other := Option.some.inj (ht.symm.trans hother)
    rw [Scope.find_eq_ok_iff, Scope.find?_ofFiles] at hfind
    obtain ⟨hmem, hname⟩ := Scope.mem_of_lastNamed hfind
    exact absurd hname (hnone d hmem)
  | wrongSort other d' hother hfind' hwrong =>
    obtain rfl : d = d' := hd.unique ⟨other, hother, hfind'⟩
    exact absurd hsort (sort_ne_wantedSort hwrong)
  | absoluteSite d' hd' hfile hs =>
    obtain rfl : d = d' := hd.unique hd'
    exact .inl ⟨rfl, hfile, hs⟩
  | noValues _ _ _ hkind _ _ => exact .inr ⟨rfl, hkind⟩

/-! ## The first obstacle -/

theorem not_primitive_of_named (hk : field.kind = .message ∨ field.kind = .enum) :
    field.kind.isPrimitive = false ∧ field.kind ≠ .group := by
  rcases hk with hk | hk <;> rw [hk] <;> exact ⟨rfl, nofun⟩

theorem result_of_not_declared (hk : field.kind = .message ∨ field.kind = .enum)
    (h : field.declaration (.ofFiles files) = .error e) :
    (field.elementTy site (.ofFiles files) options).result = .error e := by
  obtain ⟨hp, hg⟩ := not_primitive_of_named hk
  rw [result_elementTy_named hp hg, reference, h]
  rfl

theorem result_of_isFirst (hk : field.kind = .message ∨ field.kind = .enum)
    (h : IsFirst files field site o e) :
    (field.elementTy site (.ofFiles files) options).result = .error e := by
  obtain ⟨hp, hg⟩ := not_primitive_of_named hk
  obtain ⟨hblocks, hfirst⟩ := h
  have hearlier : ∀ p, p.rank < o.rank → ∀ e', ¬ Blocks files field site p e' :=
    fun p hlt e' hp => absurd (hfirst p e' hp) (Nat.not_le.mpr hlt)
  cases hblocks with
  | noTypeName ht =>
    refine result_of_not_declared hk (declaration_of_no_type_name ?_)
    rcases ht with ht | ht <;> rw [ht] <;> rfl
  | undeclared typeName ht hnone =>
    refine result_of_not_declared hk (declaration_of_undeclared ht ?_ ?_)
    · rintro rfl
      exact hearlier .noTypeName (by decide) _ (.noTypeName (.inr ht))
    · rw [Scope.find?_ofFiles, Scope.lastNamed_eq_none_iff]
      exact hnone
  | wrongSort typeName d ht hfind hsort =>
    exact result_of_not_declared hk (declaration_of_wrong_sort ht (ne_empty_of_find hfind)
      (Scope.find_eq_ok_iff.mp hfind) (sort_ne_wantedSort hsort))
  | absoluteSite d hd hfile hs =>
    have hdecl : field.declaration (.ofFiles files) = .ok d :=
      declaration_of_finds hk hd (hearlier .wrongSort (by decide))
    rw [result_elementTy_named hp hg, reference, hdecl]
    simp only [Except.bind, Declared.result_nameAt_absolute_site hfile hs, Except.map]
  | noValues d decl hd hkind hdef hvalues =>
    have hdecl : field.declaration (.ofFiles files) = .ok d :=
      declaration_of_finds hk hd (hearlier .wrongSort (by decide))
    obtain ⟨name, hname⟩ := exists_name_of_finds hd (hearlier .absoluteSite (by decide))
    rw [result_elementTy_named hp hg, reference_eq_ok_iff.mpr ⟨hdecl, hname⟩]
    simp only [Except.bind, hkind, Declared.defaultVariant_of_enum hdef, hvalues]
    rfl

/-- With no obstacle in the way, the declaration is found, named and asked for its default. -/
theorem exists_ty_of_no_obstacle (hk : field.kind = .message ∨ field.kind = .enum)
    (h : ∀ o e, ¬ Blocks files field site o e) :
    ∃ t, (field.elementTy site (.ofFiles files) options).result = .ok t := by
  cases ht : field.typeName with
  | none => exact absurd (.noTypeName (.inl ht)) (h _ _)
  | some typeName =>
  cases hfind : (Scope.ofFiles files).find? typeName with
  | none =>
    rw [Scope.find?_ofFiles, Scope.lastNamed_eq_none_iff] at hfind
    exact absurd (.undeclared typeName ht hfind) (h _ _)
  | some d =>
    have hfound : (Scope.ofFiles files).find typeName = .ok d := Scope.find_eq_ok_iff.mpr hfind
    have hd : field.Finds files d := ⟨typeName, ht, hfound⟩
    have hsort : d.sort = field.wantedSort :=
      sort_eq_wantedSort hk fun hwrong => h _ _ (.wrongSort typeName d ht hfound hwrong)
    obtain ⟨name, hname⟩ := exists_name_of_finds hd (h .absoluteSite)
    obtain ⟨hp, hg⟩ := not_primitive_of_named hk
    rw [result_elementTy_named hp hg,
      reference_eq_ok_iff.mpr ⟨declaration_of_finds hk hd (h _), hname⟩]
    simp only [Except.bind]
    rcases hk with hk | hk
    · exact ⟨.message name, if_pos hk⟩
    · obtain ⟨decl, hdef⟩ := Declared.exists_enum (hsort.trans (if_pos hk))
      rw [if_neg (by simp [hk]), Declared.defaultVariant_of_enum hdef]
      cases hvalues : decl.values with
      | nil => exact absurd (.noValues d decl hd hk hdef hvalues) (h _ _)
      | cons first rest => exact ⟨_, rfl⟩

theorem exists_ty_of_not_named (hm : field.kind ≠ .message) (he : field.kind ≠ .enum)
    (scope : Scope) : ∃ t, (field.elementTy site scope options).result = .ok t := by
  cases hp : field.kind.isPrimitive with
  | true =>
    rw [result_elementTy_primitive hp]
    exact FieldKind.exists_ty hp _
  | false =>
    by_cases hg : field.kind = .group
    · exact ⟨.group, result_elementTy_group hg⟩
    · exact absurd (kind_of_named hp hg hm) he

/-- A field of a primitive kind or a group has an element type, whatever it names and wherever it
    is used. For a field of a named kind the first obstacle that stands is reported, and where
    none stands it has one. -/
theorem the_first_obstacle_is_reported (files : List FileDecl) (field : Field) (site : Site)
    (options : Options) :
    (field.kind ≠ .message → field.kind ≠ .enum →
      ∃ t, (field.elementTy site (.ofFiles files) options).result = .ok t) ∧
    (field.kind = .message ∨ field.kind = .enum →
      (∀ e, (field.elementTy site (.ofFiles files) options).result = .error e ↔
        ∃ o, IsFirst files field site o e) ∧
      ((∃ t, (field.elementTy site (.ofFiles files) options).result = .ok t) ↔
        ∀ o e, ¬ Blocks files field site o e)) := by
  refine ⟨fun hm he => exists_ty_of_not_named hm he _, fun hk => ⟨fun e => ⟨fun herror => ?_, ?_⟩,
    ?_, exists_ty_of_no_obstacle hk⟩⟩
  · by_cases hsome : ∃ o e', Blocks files field site o e'
    · obtain ⟨o, e', hblocks⟩ := hsome
      obtain ⟨p, e'', hfirst⟩ := exists_isFirst hblocks
      rw [result_of_isFirst hk hfirst, Except.error.injEq] at herror
      subst herror
      exact ⟨p, hfirst⟩
    · obtain ⟨t, ht⟩ : ∃ t, (field.elementTy site (.ofFiles files) options).result = .ok t :=
        exists_ty_of_no_obstacle hk fun o e' hblocks => hsome ⟨o, e', hblocks⟩
      rw [herror] at ht
      cases ht
  · rintro ⟨o, hfirst⟩
    exact result_of_isFirst hk hfirst
  · rintro ⟨t, ht⟩ o e hblocks
    obtain ⟨p, e', hfirst⟩ := exists_isFirst hblocks
    rw [result_of_isFirst hk hfirst] at ht
    cases ht

/-- An enum without values and the message around it, at an absolute site. In the file that
    declares the enum its site is reported, in another file its want of values; and the message
    has a type there, as a number has anywhere. -/
theorem the_first_obstacle_is_reported_at_an_absolute_site :
    let scope : Scope := .ofFiles [Scope.shopFile]
    let within : ModPath := ⟨true, ["order"]⟩
    let kind : Field := ⟨"kind", 1, .enum, some ".shop.Order.Kind"⟩
    let order : Field := ⟨"order", 2, .message, some ".shop.Order"⟩
    let count : Field := ⟨"count", 3, .int32, none⟩
    (kind.elementTy ⟨"shop.proto", within⟩ scope {}).result = .error (.absoluteSource within) ∧
      (kind.elementTy ⟨"cart.proto", within⟩ scope {}).result =
        .error (.noValues ".shop.Order.Kind") ∧
      (∃ t, (order.elementTy ⟨"cart.proto", within⟩ scope {}).result = .ok t) ∧
      ∃ t, (count.elementTy ⟨"shop.proto", within⟩ scope {}).result = .ok t := by
  intro scope within kind order count
  let found : Declared := ⟨Scope.shopFile, ["Order"], .enum ⟨"Kind", []⟩⟩
  have hkind : scope.find ".shop.Order.Kind" = .ok found := by
    rw [Scope.find_eq_ok_iff, Scope.find?_ofFiles, Scope.lastNamed_eq_some_iff]
    exact ⟨(Scope.declared [Scope.shopFile]).take 1, (Scope.declared [Scope.shopFile]).drop 2, rfl,
      by decide +kernel, by decide +kernel⟩
  have horder : scope.find ".shop.Order" = .ok ⟨Scope.shopFile, [], .message
      { name := "Order", nested := [{ name := "Line" }], enums := [⟨"Kind", []⟩] }⟩ := by
    rw [Scope.find_eq_ok_iff, Scope.find?_ofFiles, Scope.lastNamed_eq_some_iff]
    exact ⟨[], _, rfl, by decide +kernel, by decide +kernel⟩
  have hfinds : kind.Finds [Scope.shopFile] found := ⟨_, rfl, hkind⟩
  have hname : found.absoluteName = ".shop.Order.Kind" := by decide +kernel
  have hsite : IsFirst [Scope.shopFile] kind ⟨"shop.proto", within⟩ .absoluteSite
      (.absoluteSource within) := by
    refine ⟨.absoluteSite found hfinds rfl rfl, fun p e hp => ?_⟩
    obtain ⟨rfl, -⟩ | ⟨rfl, -⟩ := obstacle_of_found hfinds rfl hp <;> decide
  have hvalues : IsFirst [Scope.shopFile] kind ⟨"cart.proto", within⟩ .noValues
      (.noValues ".shop.Order.Kind") := by
    refine ⟨hname ▸ .noValues found _ hfinds rfl rfl rfl, fun p e hp => ?_⟩
    obtain ⟨-, hfile, -⟩ | ⟨rfl, -⟩ := obstacle_of_found hfinds rfl hp
    · exact absurd hfile (by decide)
    · decide
  have hnone : ∀ o e, ¬ Blocks [Scope.shopFile] order ⟨"cart.proto", within⟩ o e := by
    intro o e h
    obtain ⟨-, hfile, -⟩ | ⟨-, hkind⟩ := obstacle_of_found ⟨_, rfl, horder⟩ rfl h
    · exact absurd hfile (by decide)
    · exact absurd hkind (by decide)
  refine ⟨?_, ?_, ?_, ?_⟩
  · exact (((the_first_obstacle_is_reported _ kind _ _).2 (.inr rfl)).1 _).mpr ⟨_, hsite⟩
  · exact (((the_first_obstacle_is_reported _ kind _ _).2 (.inr rfl)).1 _).mpr ⟨_, hvalues⟩
  · exact ((the_first_obstacle_is_reported _ order _ _).2 (.inl rfl)).2.mpr hnone
  · exact (the_first_obstacle_is_reported [Scope.shopFile] count _ _).1 (by decide) (by decide)

end RustSchema.Field
