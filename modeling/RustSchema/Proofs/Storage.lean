/-
  RustSchema.Proofs.Storage — the type of a field and the codec of its values.

  A field of a named kind has its declaration looked up and named at the site by both
  questions (`Field.reference`), and where that fails both fail, for the same reason. They
  part afterwards: only the type of an enum needs a default variant, and only a group has no
  codec. The `result_` lemmas say what each question comes to for a kind.

  `type_and_codec_agree`: type and codec are of one sort and carry one name, or both fail for
  the same reason, except that a group has a type and no codec, and an enum without values a
  codec and no type. Whatever codec a field has can be written out.
-/

import RustSchema.Storage

namespace RustSchema

/-! ## Primitive kinds -/

theorem FieldKind.exists_ty {kind : FieldKind} (h : kind.isPrimitive = true) (buffer : Buffer) :
    ∃ t, kind.ty buffer = .ok t := by
  cases kind <;> cases buffer <;> first | exact ⟨_, rfl⟩ | cases h

/-- Only bytes and text are held in shared buffers, and for these there is a codec. -/
theorem Codec.exists_text_primitive {kind : FieldKind} (h : kind.isPrimitive = true)
    (options : Options) :
    ∃ text, (Codec.primitive kind (options.bufferFor kind)).text = .ok text := by
  simp only [Codec.text, h, Bool.not_true, Bool.false_eq_true, if_false]
  cases hbuffer : options.bufferFor kind with
  | owned => exact ⟨_, rfl⟩
  | shared =>
    cases kind with
    | bytes => exact ⟨_, rfl⟩
    | string => exact ⟨_, rfl⟩
    | _ => cases hbuffer

namespace Field

variable {field : Field} {site : Site} {scope : Scope} {options : Options} {d : Declared}

/-! ## The declaration of a field -/

theorem declaration_of_no_type_name (h : field.typeName.getD "" = "") :
    field.declaration scope = .error (.noTypeName field.name field.kind) := by
  simp only [declaration, h, if_true]
  rfl

theorem declaration_of_undeclared {typeName : String} (ht : field.typeName = some typeName)
    (hne : typeName ≠ "") (hfind : scope.find? typeName = none) :
    field.declaration scope = .error (.undeclared typeName) := by
  simp only [declaration, ht, Option.getD_some, hne, if_false, Scope.find, hfind]
  rfl

theorem declaration_of_wrong_sort {typeName : String} (ht : field.typeName = some typeName)
    (hne : typeName ≠ "") (hfind : scope.find? typeName = some d)
    (hsort : d.sort ≠ field.wantedSort) :
    field.declaration scope = .error (.wrongSort field.name typeName field.wantedSort) := by
  simp only [declaration, ht, Option.getD_some, hne, if_false, Scope.find, hfind]
  exact if_pos hsort

theorem declaration_of_found {typeName : String} (ht : field.typeName = some typeName)
    (hne : typeName ≠ "") (hfind : scope.find? typeName = some d)
    (hsort : d.sort = field.wantedSort) : field.declaration scope = .ok d := by
  simp only [declaration, ht, Option.getD_some, hne, if_false, Scope.find, hfind]
  exact if_neg (not_not_intro hsort)

theorem find?_of_declaration (h : field.declaration scope = .ok d) :
    ∃ typeName, field.typeName = some typeName ∧ scope.find? typeName = some d ∧
      d.sort = field.wantedSort := by
  by_cases hempty : field.typeName.getD "" = ""
  · rw [declaration_of_no_type_name hempty] at h
    cases h
  cases ht : field.typeName with
  | none => exact absurd (by rw [ht, Option.getD_none]) hempty
  | some typeName =>
    have hne : typeName ≠ "" := by rwa [ht, Option.getD_some] at hempty
    cases hfind : scope.find? typeName with
    | none =>
      rw [declaration_of_undeclared ht hne hfind] at h
      cases h
    | some found =>
      by_cases hsort : found.sort = field.wantedSort
      · rw [declaration_of_found ht hne hfind hsort] at h
        cases h
        exact ⟨typeName, rfl, hfind, hsort⟩
      · rw [declaration_of_wrong_sort ht hne hfind hsort] at h
        cases h

/-- The declaration of a field of a named kind, and its name at the site. -/
def reference (field : Field) (site : Site) (scope : Scope) :
    Except Error (Declared × QualName) :=
  (field.declaration scope).bind fun declared =>
    (declared.nameAt site).result.map fun name => (declared, name)

theorem reference_eq_ok_iff {name : QualName} :
    field.reference site scope = .ok (d, name) ↔
      field.declaration scope = .ok d ∧ (d.nameAt site).result = .ok name := by
  simp only [reference, Except.bind_eq_ok_iff, Except.map_eq_ok_iff, Prod.mk.injEq]
  constructor
  · rintro ⟨_, hdecl, _, hname, rfl, rfl⟩
    exact ⟨hdecl, hname⟩
  · rintro ⟨hdecl, hname⟩
    exact ⟨d, hdecl, name, hname, rfl, rfl⟩

/-! ## What each question comes to -/

theorem result_elementTy_primitive (h : field.kind.isPrimitive = true) :
    (field.elementTy site scope options).result =
      field.kind.ty (options.bufferFor field.kind) := by
  simp only [elementTy, h, if_true]
  rfl

theorem result_codec_primitive (h : field.kind.isPrimitive = true) :
    (field.codec site scope options).result =
      .ok (.primitive field.kind (options.bufferFor field.kind)) := by
  simp only [codec, h, if_true]
  rfl

theorem result_elementTy_group (h : field.kind = .group) :
    (field.elementTy site scope options).result = .ok .group := by
  rw [elementTy, h]
  rfl

theorem result_codec_group (h : field.kind = .group) :
    (field.codec site scope options).result = .error (.notPrimitive .group) := by
  rw [codec, h]
  rfl

theorem result_elementTy_named (hp : field.kind.isPrimitive = false) (hg : field.kind ≠ .group) :
    (field.elementTy site scope options).result = (field.reference site scope).bind fun r =>
      if field.kind = .message then .ok (.message r.2)
      else r.1.defaultVariant.map fun default =>
        if options.openEnums then .openEnum r.2 default else .enum r.2 default := by
  simp only [elementTy, hp, hg, Bool.false_eq_true, if_false, Traced.result_bind,
    Traced.result_liftM, Traced.result_ite, Traced.result_pure, reference]
  cases field.declaration scope with
  | error e => rfl
  | ok found =>
    simp only [Except.bind]
    cases (found.nameAt site).result <;> rfl

theorem result_codec_named (hp : field.kind.isPrimitive = false) (hg : field.kind ≠ .group) :
    (field.codec site scope options).result = (field.reference site scope).map fun r =>
      if field.kind = .message then .message r.2
      else if options.openEnums then .openEnum r.2 else .enum r.2 := by
  simp only [codec, hp, hg, Bool.false_eq_true, if_false, Traced.result_bind,
    Traced.result_liftM, Traced.result_ite, Traced.result_pure, reference]
  cases field.declaration scope with
  | error e => rfl
  | ok found =>
    simp only [Except.bind]
    cases (found.nameAt site).result with
    | error e => rfl
    | ok name => exact (apply_ite Except.ok _ _ _).symm

end Field

/-! ## Default variants -/

theorem Declared.exists_enum {d : Declared} (h : d.sort = .enum) :
    ∃ decl, d.definition = .enum decl := by
  unfold Declared.sort at h
  cases hdef : d.definition with
  | message decl =>
    rw [hdef] at h
    cases h
  | enum decl => exact ⟨decl, rfl⟩

theorem Declared.defaultVariant_of_enum {d : Declared} {decl : EnumDecl}
    (h : d.definition = .enum decl) :
    d.defaultVariant = match decl.values with
      | first :: _ => .ok first
      | [] => .error (.noValues d.absoluteName) := by
  unfold Declared.defaultVariant
  rw [h]
  obtain ⟨name, values⟩ := decl
  cases values <;> rfl

/-! ## Agreement -/

namespace Field

/-- The type and the codec of a field, when they agree as far as they do. -/
inductive Agree (field : Field) (scope : Scope) (options : Options) :
    Except Error Ty → Except Error Codec → Prop
  | primitive (t : Ty) : field.kind.ty (options.bufferFor field.kind) = .ok t →
      Agree field scope options (.ok t)
        (.ok (.primitive field.kind (options.bufferFor field.kind)))
  | message (name : QualName) : field.kind = .message →
      Agree field scope options (.ok (.message name)) (.ok (.message name))
  | enum (name : QualName) (default : String) : field.kind = .enum → options.openEnums = false →
      Agree field scope options (.ok (.enum name default)) (.ok (.enum name))
  | openEnum (name : QualName) (default : String) : field.kind = .enum → options.openEnums = true →
      Agree field scope options (.ok (.openEnum name default)) (.ok (.openEnum name))
  /-- A group has a type to stand for it, and no codec. -/
  | group : field.kind = .group →
      Agree field scope options (.ok .group) (.error (.notPrimitive .group))
  /-- An enum without values has no default variant, which its codec does not ask for. -/
  | noValues (typeName : String) (d : Declared) (decl : EnumDecl) (codec : Codec) :
      field.kind = .enum → field.typeName = some typeName → scope.find? typeName = some d →
      d.definition = .enum decl → decl.values = [] →
      Agree field scope options (.error (.noValues d.absoluteName)) (.ok codec)
  | refused (e : Error) : Agree field scope options (.error e) (.error e)

variable {field : Field} {site : Site} {scope : Scope} {options : Options}

theorem kind_of_named (hp : field.kind.isPrimitive = false) (hg : field.kind ≠ .group)
    (hm : field.kind ≠ .message) : field.kind = .enum := by
  cases hk : field.kind <;> simp_all [FieldKind.isPrimitive]

theorem agree_named (hp : field.kind.isPrimitive = false) (hg : field.kind ≠ .group) :
    Agree field scope options (field.elementTy site scope options).result
      (field.codec site scope options).result := by
  rw [result_elementTy_named hp hg, result_codec_named hp hg]
  cases href : field.reference site scope with
  | error e => exact .refused e
  | ok r =>
    obtain ⟨d, name⟩ := r
    simp only [Except.bind, Except.map]
    by_cases hm : field.kind = .message
    · rw [if_pos hm, if_pos hm]
      exact .message name hm
    have hkind := kind_of_named hp hg hm
    obtain ⟨typeName, ht, hfind, hsort⟩ := find?_of_declaration (reference_eq_ok_iff.mp href).1
    obtain ⟨decl, hdef⟩ : ∃ decl, d.definition = .enum decl :=
      Declared.exists_enum (by rw [hsort, wantedSort, if_pos hkind])
    rw [if_neg hm, if_neg hm, Declared.defaultVariant_of_enum hdef]
    cases hvalues : decl.values with
    | nil => exact .noValues typeName d decl _ hkind ht hfind hdef hvalues
    | cons first rest =>
      cases hopen : options.openEnums with
      | false => exact .enum name first hkind hopen
      | true => exact .openEnum name first hkind hopen

theorem exists_text_of_codec {codec : Codec}
    (h : (field.codec site scope options).result = .ok codec) : ∃ text, codec.text = .ok text := by
  by_cases hp : field.kind.isPrimitive = true
  · rw [result_codec_primitive hp] at h
    cases h
    exact Codec.exists_text_primitive hp options
  by_cases hg : field.kind = .group
  · rw [result_codec_group hg] at h
    cases h
  rw [result_codec_named (by simpa using hp) hg] at h
  cases href : field.reference site scope with
  | error e =>
    rw [href] at h
    cases h
  | ok r =>
    rw [href] at h
    cases h
    split
    · exact ⟨_, rfl⟩
    · split <;> exact ⟨_, rfl⟩

/-- The type of a field and its codec agree, for every scope and all options, and every codec
    that a field has can be written out. -/
theorem type_and_codec_agree (field : Field) (site : Site) (scope : Scope) (options : Options) :
    Agree field scope options (field.elementTy site scope options).result
      (field.codec site scope options).result ∧
    ∀ codec, (field.codec site scope options).result = .ok codec →
      ∃ text, codec.text = .ok text := by
  refine ⟨?_, fun codec h => exists_text_of_codec h⟩
  by_cases hp : field.kind.isPrimitive = true
  · obtain ⟨t, ht⟩ := FieldKind.exists_ty hp (options.bufferFor field.kind)
    rw [result_elementTy_primitive hp, result_codec_primitive hp, ht]
    exact .primitive t ht
  by_cases hg : field.kind = .group
  · rw [result_elementTy_group hg, result_codec_group hg]
    exact .group hg
  · exact agree_named (by simpa using hp) hg

/-- An enum of `shop.proto` that declares no values. -/
def emptyEnum : Declared :=
  ⟨{ name := "shop.proto", package := "shop", enums := [⟨"Kind", []⟩] }, [], .enum ⟨"Kind", []⟩⟩

/-- A field of that enum has a codec, as seen from the module of a message beside it. -/
theorem type_and_codec_agree_without_values :
    let field : Field := ⟨"kind", 1, .enum, some ".shop.Kind"⟩
    let site : Site := ⟨"shop.proto", .relative ["order"]⟩
    let codec : Codec := .openEnum ⟨.relative ["super"], "Kind"⟩
    (field.codec site (.ofFiles [emptyEnum.file]) { openEnums := true }).result = .ok codec ∧
      ∃ text, codec.text = .ok text := by
  intro field site codec
  have hname : emptyEnum.absoluteName = ".shop.Kind" := by decide +kernel
  have hfind : (Scope.ofFiles [emptyEnum.file]).find? ".shop.Kind" = some emptyEnum := by
    have htable : (Scope.ofFiles [emptyEnum.file]).table = Scope.add ∅ emptyEnum :=
      Scope.table_ofFiles _
    rw [Scope.find?, htable, Scope.add, hname]
    exact Std.HashMap.getElem?_insert_self
  have hat : (emptyEnum.nameAt site).result = .ok ⟨.relative ["super"], "Kind"⟩ := rfl
  have hcodec : (field.codec site (.ofFiles [emptyEnum.file]) { openEnums := true }).result =
      .ok codec := by
    rw [result_codec_named rfl (by decide), reference,
      declaration_of_found rfl (by decide) hfind rfl]
    simp only [Except.bind, hat]
    rfl
  exact ⟨hcodec, (type_and_codec_agree _ _ _ _).2 _ hcodec⟩

end Field

end RustSchema
