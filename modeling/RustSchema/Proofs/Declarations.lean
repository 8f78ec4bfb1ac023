/-
  RustSchema.Proofs.Declarations — how declarations follow from one another.

  A file and a message have members, the enums and messages that stand side by side in them. A
  member declares itself and what its own members declare (`declaredBy_eq_cons`), so what holds
  of all declarations is proved by induction on the definition that holds them
  (`Definition.member_induction`).

  Every declaration is reached through the name of the member that holds it
  (`prefix_of_mem_declaredBy`), and every message around it is declared in the same file
  (`exists_of_mem_enclosing`).
-/

import RustSchema.Proofs.SchemaNames

namespace RustSchema

namespace Definition

def listed (enums : List EnumDecl) (messages : List MessageDecl) : List Definition :=
  enums.map .enum ++ messages.map .message

def members : Definition → List Definition
  | .message decl => listed decl.enums decl.nested
  | .enum _ => []

theorem sizeOf_lt_of_mem_members {definition member : Definition}
    (h : member ∈ definition.members) : sizeOf member < sizeOf definition := by
  cases definition with
  | enum decl => cases h
  | message decl =>
    obtain ⟨name, fields, nested, enums⟩ := decl
    rcases List.mem_append.mp h with henum | hnested
    · obtain ⟨inner, hinner, rfl⟩ := List.mem_map.mp henum
      have hlt : sizeOf inner < sizeOf enums := List.sizeOf_lt_of_mem hinner
      simp only [message.sizeOf_spec, enum.sizeOf_spec, MessageDecl.mk.sizeOf_spec]
      omega
    · obtain ⟨inner, hinner, rfl⟩ := List.mem_map.mp hnested
      have hlt : sizeOf inner < sizeOf nested := List.sizeOf_lt_of_mem hinner
      simp only [message.sizeOf_spec, MessageDecl.mk.sizeOf_spec]
      omega

/-- What a definition has whenever its members have it, all definitions have. -/
@[elab_as_elim]
theorem member_induction {motive : Definition → Prop}
    (step : ∀ definition : Definition, (∀ member ∈ definition.members, motive member) →
      motive definition) (definition : Definition) : motive definition :=
  step definition fun member hmember =>
    have : sizeOf member < sizeOf definition := sizeOf_lt_of_mem_members hmember
    member_induction step member
  termination_by sizeOf definition

end Definition

namespace FileDecl

variable {file : FileDecl} {enclosing : List String} {member : Definition} {d : Declared}

def members (file : FileDecl) : List Definition := Definition.listed file.enums file.messages

/-- A member and all that is nested in it. -/
def declaredBy (file : FileDecl) (enclosing : List String) : Definition → List Declared
  | .message decl => file.messageIn enclosing decl
  | .enum decl => [⟨file, enclosing, .enum decl⟩]

/-! ## Members -/

theorem messagesIn_eq_flatMap (file : FileDecl) (enclosing : List String)
    (decls : List MessageDecl) :
    file.messagesIn enclosing decls = decls.flatMap (file.messageIn enclosing) := by
  induction decls with
  | nil => simp [messagesIn]
  | cons decl rest ih => rw [messagesIn, ih, List.flatMap_cons]

theorem flatMap_declaredBy_listed (file : FileDecl) (enclosing : List String)
    (enums : List EnumDecl) (messages : List MessageDecl) :
    (Definition.listed enums messages).flatMap (file.declaredBy enclosing) =
      file.enumsIn enclosing enums ++ file.messagesIn enclosing messages := by
  rw [Definition.listed, List.flatMap_append, List.flatMap_map, List.flatMap_map,
    messagesIn_eq_flatMap, enumsIn, List.map_eq_flatMap]
  rfl

theorem declarations_eq_flatMap (file : FileDecl) :
    file.declarations = file.members.flatMap (file.declaredBy []) :=
  (flatMap_declaredBy_listed file [] file.enums file.messages).symm

theorem declaredBy_eq_cons (file : FileDecl) (enclosing : List String) (member : Definition) :
    file.declaredBy enclosing member = ⟨file, enclosing, member⟩ ::
      member.members.flatMap (file.declaredBy (enclosing ++ [member.name])) := by
  cases member with
  | enum decl => rfl
  | message decl =>
    obtain ⟨name, fields, nested, enums⟩ := decl
    rw [declaredBy, messageIn, Definition.members, flatMap_declaredBy_listed, List.cons_append]
    rfl

theorem mem_declarations_iff :
    d ∈ file.declarations ↔ ∃ member ∈ file.members, d ∈ file.declaredBy [] member := by
  rw [declarations_eq_flatMap, List.mem_flatMap]

theorem mem_declaredBy_iff :
    d ∈ file.declaredBy enclosing member ↔ d = ⟨file, enclosing, member⟩ ∨
      ∃ inner ∈ member.members, d ∈ file.declaredBy (enclosing ++ [member.name]) inner := by
  rw [declaredBy_eq_cons, List.mem_cons, List.mem_flatMap]

/-! ## What a member declares -/

theorem file_of_mem_declaredBy (h : d ∈ file.declaredBy enclosing member) : d.file = file := by
  induction member using Definition.member_induction generalizing enclosing with
  | step member ih =>
    obtain rfl | ⟨inner, hinner, hd⟩ := mem_declaredBy_iff.mp h
    · rfl
    · exact ih inner hinner hd

/-- A declaration is reached through the name of the member that holds it. -/
theorem prefix_of_mem_declaredBy (h : d ∈ file.declaredBy enclosing member) :
    enclosing ++ [member.name] <+: d.place := by
  induction member using Definition.member_induction generalizing enclosing with
  | step member ih =>
    obtain rfl | ⟨inner, hinner, hd⟩ := mem_declaredBy_iff.mp h
    · exact List.prefix_rfl
    · exact (List.prefix_append _ _).trans (ih inner hinner hd)

/-- What stands around a declaration is what stands around the member that holds it, and
    messages declared by the member. -/
theorem mem_enclosing_of_mem_declaredBy (h : d ∈ file.declaredBy enclosing member)
    {message : String} (hm : message ∈ d.enclosing) :
    message ∈ enclosing ∨ ∃ e ∈ file.declaredBy enclosing member, e.name = message := by
  induction member using Definition.member_induction generalizing enclosing with
  | step member ih =>
    obtain rfl | ⟨inner, hinner, hd⟩ := mem_declaredBy_iff.mp h
    · exact .inl hm
    obtain hmem | ⟨e, he, hname⟩ := ih inner hinner hd
    · rcases List.mem_append.mp hmem with houter | hself
      · exact .inl houter
      · exact .inr ⟨_, mem_declaredBy_iff.mpr (.inl rfl), (List.mem_singleton.mp hself).symm⟩
    · exact .inr ⟨e, mem_declaredBy_iff.mpr (.inr ⟨inner, hinner, he⟩), hname⟩

theorem file_of_mem_declarations (h : d ∈ file.declarations) : d.file = file := by
  obtain ⟨member, -, hd⟩ := mem_declarations_iff.mp h
  exact file_of_mem_declaredBy hd

/-- Every message around a declaration is declared in the same file. -/
theorem exists_of_mem_enclosing (h : d ∈ file.declarations) {message : String}
    (hm : message ∈ d.enclosing) : ∃ e ∈ file.declarations, e.name = message := by
  obtain ⟨member, hmember, hd⟩ := mem_declarations_iff.mp h
  obtain htop | ⟨e, he, hname⟩ := mem_enclosing_of_mem_declaredBy hd hm
  · cases htop
  · exact ⟨e, mem_declarations_iff.mpr ⟨member, hmember, he⟩, hname⟩

end FileDecl

end RustSchema
