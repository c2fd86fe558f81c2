import TypeAtlas.Proofs.Naming.Memo

/-!
A sequence of questions put to one table of names. Whatever was asked before, an answer is the
canonical name, the canonical name is given whenever its derivation fits the limit, and a subject
on which the rules never come to an end is refused. A cycle of types that declare no name is such
a subject, and so is a type with a part that leads nowhere.
-/

namespace TypeAtlas

set_option autoImplicit false

/-- The roles in which a type refers to others. The methods of a struct are not among them,
because their signatures are seen only together with a receiver. -/
inductive Shape.RefersTo : Shape → TypeRef → Prop where
  | pointed {elem : TypeRef} : RefersTo (.pointer elem) elem
  | sent {elem : TypeRef} {dir : ChanDir} : RefersTo (.chan elem dir) elem
  | sliced {elem : TypeRef} : RefersTo (.slice elem) elem
  | arrayed {elem : TypeRef} {length : UInt64} : RefersTo (.array elem length) elem
  | key {key elem : TypeRef} : RefersTo (.map key elem) key
  | mapped {key elem : TypeRef} : RefersTo (.map key elem) elem
  | param {params results : List TypeRef} {variadic : Bool} {param : TypeRef} :
      param ∈ params → RefersTo (.func params results variadic) param
  | result {params results : List TypeRef} {variadic : Bool} {result : TypeRef} :
      result ∈ results → RefersTo (.func params results variadic) result
  | field {fields : List StructField} {methods : List Method} {field : StructField} :
      field ∈ fields → RefersTo (.struct fields methods) field.type
  | signature {methods : List Method} {method : Method} {signature : TypeRef} :
      method ∈ methods → method.signature = some signature →
        RefersTo (.interface methods) signature

theorem Shape.mem_parts_iff {shape : Shape} {part : TypeRef} :
    part ∈ shape.parts ↔ shape.RefersTo part := by
  constructor
  · intro member
    cases shape with
    | primitive => cases member
    | pointer elem =>
        cases List.mem_singleton.mp member
        exact .pointed
    | chan elem dir =>
        cases List.mem_singleton.mp member
        exact .sent
    | slice elem =>
        cases List.mem_singleton.mp member
        exact .sliced
    | array elem length =>
        cases List.mem_singleton.mp member
        exact .arrayed
    | map key elem =>
        rcases List.mem_cons.mp member with rfl | last
        · exact .key
        · cases List.mem_singleton.mp last
          exact .mapped
    | func params results variadic =>
        rcases List.mem_append.mp member with among | among
        · exact .param among
        · exact .result among
    | struct fields methods =>
        obtain ⟨field, among, rfl⟩ := List.mem_map.mp member
        exact .field among
    | interface methods =>
        obtain ⟨method, among, signed⟩ := List.mem_filterMap.mp member
        exact .signature among signed
  · intro refers
    cases refers with
    | pointed | sent | sliced | arrayed | key => exact List.mem_cons_self
    | mapped => exact List.mem_cons_of_mem _ List.mem_cons_self
    | param among => exact List.mem_append_left _ among
    | result among => exact List.mem_append_right _ among
    | field among => exact List.mem_map_of_mem among
    | signature among signed => exact List.mem_filterMap.mpr ⟨_, among, signed⟩

namespace Naming

def ask (describe : Address → Except DescriptorFault RuntimeType) (limit : Nat) :
    Nameable → Naming String
  | .type type => nameOf describe limit type
  | .ref reference => nameOfRef describe limit reference

/-- The answers to questions asked one after another, each with the names kept from before. -/
def answers (describe : Address → Except DescriptorFault RuntimeType) (limit : Nat) :
    List Nameable → NameCache → List (Except DescriptorFault String)
  | [], _ => []
  | subject :: later, names =>
      let (answer, after) := (ask describe limit subject).run names
      answer :: answers describe limit later after

/-- What may be asked for: references, descriptors that are found somewhere, and types that claim
no address. -/
def Admitted (describe : Address → Except DescriptorFault RuntimeType) : Nameable → Prop
  | .ref _ => True
  | .type type => type.address = none ∨ ∃ address, describe address = .ok type

/-- Subjects on which the rules never come to an end: a reference among them leads nowhere or to
a type among them, and a type among them is spelled by parts of which one is among them. -/
def Endless (describe : Address → Except DescriptorFault RuntimeType) (stuck : Nameable → Prop) :
    Prop :=
  ∀ subject, stuck subject → match subject with
    | .ref reference => ∃ target, reference = .address target ∧
        ∀ type, describe target = .ok type → stuck (.type type)
    | .type type => Undeclared type ∧ (∀ methods, type.shape ≠ .interface methods) ∧
        ∃ part, type.shape.RefersTo part ∧ stuck (.ref part)

/-- What one answer owes to the naming rules. -/
structure Answered (describe : Address → Except DescriptorFault RuntimeType) (limit : Nat)
    (subject : Nameable) (answer : Except DescriptorFault String) : Prop where
  sound : ∀ name, answer = .ok name → Canonical describe subject name
  complete : ∀ name, CanonicalWithin describe limit subject name → answer = .ok name
  refused : (∀ name, ¬Canonical describe subject name) → ∃ fault, answer = .error fault
  endless : ∀ stuck, Endless describe stuck → stuck subject → ∃ fault, answer = .error fault

variable {describe : Address → Except DescriptorFault RuntimeType} {limit : Nat}

/-- A structural spelling names every part, except that an interface is not spelled by its
methods. -/
theorem every_part_named {relate : TypeRef → String → Prop} {type : RuntimeType}
    {named : Spelling String} (composite : ∀ methods, type.shape ≠ .interface methods)
    (spelled : Matches relate type.structuralSpelling named) :
    ∀ part, type.shape.RefersTo part → ∃ name, relate part name := by
  unfold RuntimeType.structuralSpelling at spelled
  intro part refers
  generalize type.shape = shape at composite spelled refers
  cases refers with
  | pointed | sent | sliced | arrayed =>
      cases spelled
      exact ⟨_, by assumption⟩
  | key =>
      cases spelled with
      | map keyNamed _ => exact ⟨_, keyNamed⟩
  | mapped =>
      cases spelled with
      | map _ elemNamed => exact ⟨_, elemNamed⟩
  | param among =>
      cases spelled with
      | func _ paramsNamed _ => exact forall_left paramsNamed part among
  | result among =>
      cases spelled with
      | func _ _ resultsNamed => exact forall_left resultsNamed part among
  | @field fields methods field among =>
      cases spelled with
      | struct fieldsNamed =>
          have labelled := forall_left fieldsNamed (field.name, field.type)
            (List.mem_map.mpr ⟨field, among, rfl⟩)
          obtain ⟨name, _, partNamed⟩ := labelled
          exact ⟨name.2, partNamed⟩
  | signature => exact absurd rfl (composite _)

theorem endless_ref_unnamed {stuck : Nameable → Prop} (endless : Endless describe stuck)
    {levels : Nat}
    (unnamed : ∀ type, stuck (.type type) → ∀ name, ¬Derivable describe levels (.type type) name)
    {reference : TypeRef} (among : stuck (.ref reference)) (name : String) :
    ¬Derivable describe levels (.ref reference) name := by
  intro derived
  obtain ⟨target, rfl, follows⟩ := endless _ among
  cases derived with
  | described found derived => exact unnamed _ (follows _ found) name derived

theorem endless_type_unnamed {stuck : Nameable → Prop} (endless : Endless describe stuck)
    (levels : Nat) :
    ∀ type, stuck (.type type) → ∀ name, ¬Derivable describe levels (.type type) name := by
  induction levels with
  | zero => intro type _ name derived; cases derived
  | succ levels ih =>
      intro type among name derived
      obtain ⟨undeclared, composite, part, refers, partAmong⟩ := endless _ among
      obtain ⟨named, spelled, _⟩ := derivable_type_iff.mp derived
      rw [spelling_of_undeclared undeclared] at spelled
      obtain ⟨partName, partDerived⟩ := every_part_named composite spelled part refers
      exact endless_ref_unnamed endless ih partAmong partName partDerived

/-- A derivation that reached an endless subject would have to contain a smaller one that reaches
another. -/
theorem endless_unnamed {stuck : Nameable → Prop} (endless : Endless describe stuck)
    {subject : Nameable} (among : stuck subject) (name : String) :
    ¬Canonical describe subject name := by
  intro canonical
  obtain ⟨levels, derived⟩ := canonical
  cases subject with
  | type type => exact endless_type_unnamed endless levels type among name derived
  | ref reference =>
      exact endless_ref_unnamed endless (endless_type_unnamed endless levels) among name derived

theorem placed_of_admitted (placing : Placing describe) {type : RuntimeType}
    (admitted : Admitted describe (.type type)) : Placed describe type := by
  rcases admitted with unplaced | ⟨address, found⟩
  · exact placed_of_unplaced unplaced
  · exact placed_of_described placing found

theorem settles_ask (placing : Placing describe) {subject : Nameable}
    (admitted : Admitted describe subject) :
    Settles describe (ask describe limit subject) (Canonical describe subject)
      (CanonicalWithin describe limit subject) := by
  cases subject with
  | type type =>
      exact settles_within placing (limit + 1) type (placed_of_admitted placing admitted)
  | ref reference => exact settles_ref placing (settles_within placing (limit + 1)) reference

theorem answered_of_settled {subject : Nameable} {answer : Except DescriptorFault String}
    (sound : ∀ name, answer = .ok name → Canonical describe subject name)
    (complete : ∀ name, CanonicalWithin describe limit subject name → answer = .ok name) :
    Answered describe limit subject answer := by
  have refused : (∀ name, ¬Canonical describe subject name) → ∃ fault, answer = .error fault := by
    intro unnamed
    cases result : answer with
    | error fault => exact ⟨fault, rfl⟩
    | ok name => exact absurd (sound name result) (unnamed name)
  refine ⟨sound, complete, refused, ?_⟩
  intro stuck endless among
  exact refused (endless_unnamed endless among)

theorem answers_answered (placing : Placing describe) (subjects : List Nameable)
    (admitted : ∀ subject ∈ subjects, Admitted describe subject) {names : NameCache}
    (truthful : Truthful describe names) :
    List.Forall₂ (Answered describe limit) subjects (answers describe limit subjects names) := by
  induction subjects generalizing names with
  | nil => exact .nil
  | cons subject later ih =>
      have settled : Settles describe (ask describe limit subject) _ _ :=
        settles_ask placing (admitted subject List.mem_cons_self)
      obtain ⟨kept, sound, complete⟩ := settled names truthful
      apply List.Forall₂.cons
      · exact answered_of_settled sound complete
      · apply ih _ kept
        intro other member
        exact admitted other (List.mem_cons_of_mem _ member)

theorem placing_of_faithful {resolve : Resolver} (faithful : resolve.Faithful)
    (sections : List Address) : Placing (resolve sections) :=
  fun address type found => faithful sections address type found

/-- However many questions are put to one table of names, which starts out empty, each is
answered as the naming rules have it. -/
theorem questions_answered (resolve : Resolver) (faithful : resolve.Faithful)
    (sections : List Address) (limit : Nat) (subjects : List Nameable)
    (admitted : ∀ subject ∈ subjects, Admitted (resolve sections) subject) :
    List.Forall₂ (Answered (resolve sections) limit) subjects
      (answers (resolve sections) limit subjects .empty) :=
  answers_answered (placing_of_faithful faithful sections) subjects admitted empty_truthful

/-- A pointer that leads to itself. -/
def selfPointer : RuntimeType :=
  ⟨some ⟨16⟩, .pointer, 8, none, none, "", .pointer (.address ⟨16⟩)⟩

/-- A declared slice of itself. -/
def declaredList : RuntimeType :=
  ⟨some ⟨32⟩, .slice, 24, some "List", some "data", "data.List", .slice (.address ⟨32⟩)⟩

def listPointer : RuntimeType :=
  ⟨none, .pointer, 8, none, none, "", .pointer (.address ⟨32⟩)⟩

theorem questions_answered_over_cycles :
    List.Forall₂ (Answered (Resolver.ofTypes [selfPointer, declaredList] []) 1)
      [.ref (.address ⟨16⟩), .type listPointer, .type declaredList, .ref (.address ⟨16⟩)]
      (answers (Resolver.ofTypes [selfPointer, declaredList] []) 1
        [.ref (.address ⟨16⟩), .type listPointer, .type declaredList, .ref (.address ⟨16⟩)]
        .empty) := by
  apply questions_answered _ (Resolver.faithful_ofTypes _)
  intro subject member
  simp only [List.mem_cons, List.not_mem_nil, or_false] at member
  rcases member with rfl | rfl | rfl | rfl
  · trivial
  · exact Or.inl rfl
  · exact Or.inr ⟨⟨32⟩, by decide⟩
  · trivial

/-- A primitive with neither a declared name nor a string of its own. -/
def wordless : RuntimeType := ⟨some ⟨16⟩, .int, 8, none, none, "", .primitive⟩

/-- A declared type that is no slice and has the brackets of one in its name. -/
def bracketed : RuntimeType := ⟨some ⟨32⟩, .bool, 1, some "[]T", none, "[]T", .primitive⟩

def spreading : RuntimeType :=
  ⟨some ⟨48⟩, .func, 8, none, none, "", .func [.address ⟨32⟩] [] true⟩

/-- A primitive is not always named by its own string, and an ellipsis does not always stand for
a slice. -/
theorem kind_and_ellipsis_without_string_or_slice :
    answers (Resolver.ofTypes [wordless, bracketed, spreading] []) 64
        [.ref (.address ⟨16⟩), .ref (.address ⟨48⟩)] .empty =
      [.ok "int", .ok "func(...T)"] ∧
    (Undeclared wordless ∧ wordless.shape = .primitive ∧ wordless.repr ≠ "int") ∧
    (Undeclared spreading ∧ spreading.shape = .func [.address ⟨32⟩] [] true ∧
      bracketed.shape = .primitive ∧ "func(" ++ bracketed.repr ++ ")" ≠ "func(...T)") := by
  refine ⟨by decide +kernel, ⟨rfl, rfl, by decide⟩, rfl, rfl, rfl, by decide⟩

end Naming

end TypeAtlas
