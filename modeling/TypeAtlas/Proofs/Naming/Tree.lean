import TypeAtlas.Proofs.Naming.Answers

/-!
The tree of a type: how it is built, down to the types that spell themselves. Wherever following
the references from a type comes to an end, its canonical name is that of its tree.
-/

namespace TypeAtlas.Naming

set_option autoImplicit false

/-- The structure of a type. A leaf is known by its name only. -/
inductive TypeTree where
  | leaf (name : String)
  | opaquePointer
  | pointer (elem : TypeTree)
  | slice (elem : TypeTree)
  | array (length : UInt64) (elem : TypeTree)
  | chan (dir : ChanDir) (elem : TypeTree)
  | map (key elem : TypeTree)
  | func (params results : List TypeTree) (variadic : Bool)
  | struct (fields : List (String × TypeTree))

namespace TypeTree

theorem sizeOf_field {field : String × TypeTree} {fields : List (String × TypeTree)}
    (member : field ∈ fields) : sizeOf field.2 < sizeOf fields := by
  have whole := List.sizeOf_lt_of_mem member
  obtain ⟨label, part⟩ := field
  simp only [Prod.mk.sizeOf_spec] at whole ⊢
  omega

/-- Each form is spelled as that form is, from the names of its parts. -/
def name : TypeTree → String
  | leaf name => name
  | opaquePointer => opaquePointerName
  | pointer elem => (Spelling.pointer elem.name).render
  | slice elem => (Spelling.slice elem.name).render
  | array length elem => (Spelling.array length elem.name).render
  | chan dir elem => (Spelling.chan dir elem.name).render
  | map key elem => (Spelling.map key.name elem.name).render
  | func params results variadic =>
      (Spelling.func (params.map name) (results.map name) variadic).render
  | struct fields => (Spelling.struct (fields.map fun field => (field.1, field.2.name))).render
decreasing_by
  all_goals simp_wf
  all_goals first
    | omega
    | (have smaller := List.sizeOf_lt_of_mem ‹_ ∈ _›; omega)
    | (have smaller := sizeOf_field ‹_ ∈ _›; omega)

end TypeTree

/-- Following the references from the subject gives the tree. Declared types, primitives and
interfaces spell themselves; all others are as they are built. -/
inductive Unfolds (describe : Address → Except DescriptorFault RuntimeType) :
    Nameable → TypeTree → Prop where
  | opaquePointer : Unfolds describe (.ref .opaquePointer) .opaquePointer
  | described {target : Address} {type : RuntimeType} {tree : TypeTree} :
      describe target = .ok type → Unfolds describe (.type type) tree →
        Unfolds describe (.ref (.address target)) tree
  | leaf {type : RuntimeType} {name : String} :
      type.spelling = .verbatim name → Unfolds describe (.type type) (.leaf name)
  | pointer {type : RuntimeType} {elem : TypeRef} {tree : TypeTree} :
      Undeclared type → type.shape = .pointer elem → Unfolds describe (.ref elem) tree →
        Unfolds describe (.type type) (.pointer tree)
  | slice {type : RuntimeType} {elem : TypeRef} {tree : TypeTree} :
      Undeclared type → type.shape = .slice elem → Unfolds describe (.ref elem) tree →
        Unfolds describe (.type type) (.slice tree)
  | array {type : RuntimeType} {elem : TypeRef} {length : UInt64} {tree : TypeTree} :
      Undeclared type → type.shape = .array elem length → Unfolds describe (.ref elem) tree →
        Unfolds describe (.type type) (.array length tree)
  | chan {type : RuntimeType} {elem : TypeRef} {dir : ChanDir} {tree : TypeTree} :
      Undeclared type → type.shape = .chan elem dir → Unfolds describe (.ref elem) tree →
        Unfolds describe (.type type) (.chan dir tree)
  | map {type : RuntimeType} {key elem : TypeRef} {keyTree elemTree : TypeTree} :
      Undeclared type → type.shape = .map key elem → Unfolds describe (.ref key) keyTree →
        Unfolds describe (.ref elem) elemTree →
          Unfolds describe (.type type) (.map keyTree elemTree)
  | func {type : RuntimeType} {params results : List TypeRef} {variadic : Bool}
      {paramTrees resultTrees : List TypeTree} :
      Undeclared type → type.shape = .func params results variadic →
        params.length = paramTrees.length → results.length = resultTrees.length →
          (∀ part tree, (part, tree) ∈ params.zip paramTrees →
            Unfolds describe (.ref part) tree) →
          (∀ part tree, (part, tree) ∈ results.zip resultTrees →
            Unfolds describe (.ref part) tree) →
            Unfolds describe (.type type) (.func paramTrees resultTrees variadic)
  | struct {type : RuntimeType} {fields : List StructField} {methods : List Method}
      {trees : List TypeTree} :
      Undeclared type → type.shape = .struct fields methods → fields.length = trees.length →
        (∀ field tree, (field, tree) ∈ fields.zip trees →
          Unfolds describe (.ref field.type) tree) →
          Unfolds describe (.type type)
            (.struct ((fields.zip trees).map fun (field, tree) => (field.name, tree)))

variable {describe : Address → Except DescriptorFault RuntimeType}

/-- How a part is named, at whatever depth. -/
def PartCanonical (describe : Address → Except DescriptorFault RuntimeType) (part : TypeRef)
    (name : String) : Prop :=
  Canonical describe (.ref part) name

theorem parts_canonical {parts : List TypeRef} {trees : List TypeTree}
    (same : parts.length = trees.length)
    (named : ∀ part tree, (part, tree) ∈ parts.zip trees →
      Canonical describe (.ref part) tree.name) :
    List.Forall₂ (PartCanonical describe) parts (trees.map TypeTree.name) := by
  rw [List.forall₂_map_right_iff]
  exact forall_of_zip same named

theorem fields_canonical {fields : List StructField} {trees : List TypeTree}
    (same : fields.length = trees.length)
    (named : ∀ field tree, (field, tree) ∈ fields.zip trees →
      Canonical describe (.ref field.type) tree.name) :
    List.Forall₂ (fun field name => field.1 = name.1 ∧ PartCanonical describe field.2 name.2)
      (fields.map fun field => (field.name, field.type))
      (((fields.zip trees).map fun (field, tree) => (field.name, tree)).map
        fun field => (field.1, field.2.name)) := by
  rw [matches_fields_iff]
  refine ⟨trees.map TypeTree.name, by simpa using same, ?_, ?_⟩
  · intro field name member
    rw [List.zip_map_right] at member
    obtain ⟨⟨_, tree⟩, among, same⟩ := List.mem_map.mp member
    cases same
    exact named _ tree among
  · rw [List.zip_map_right, List.map_map, List.map_map]
    rfl

theorem canonical_of_structural {type : RuntimeType} {named : Spelling String}
    (undeclared : Undeclared type)
    (spelled : Matches (PartCanonical describe) type.structuralSpelling named) :
    Canonical describe (.type type) named.render := by
  rw [← spelling_of_undeclared undeclared] at spelled
  exact canonical_of_matches spelled

/-- The naming rules give every subject with a tree the name of that tree. -/
theorem canonical_of_unfolds {subject : Nameable} {tree : TypeTree}
    (unfolds : Unfolds describe subject tree) : Canonical describe subject tree.name := by
  induction unfolds with
  | opaquePointer =>
      rw [TypeTree.name]
      exact ⟨0, .opaquePointer⟩
  | described found _ ih =>
      obtain ⟨levels, derived⟩ := ih
      exact ⟨levels, .described found derived⟩
  | leaf spelled =>
      rw [TypeTree.name]
      exact canonical_of_matches (by rw [spelled]; exact .verbatim _)
  | pointer undeclared shape _ elem =>
      rw [TypeTree.name]
      apply canonical_of_structural undeclared
      rw [RuntimeType.structuralSpelling, shape]
      exact .pointer elem
  | slice undeclared shape _ elem =>
      rw [TypeTree.name]
      apply canonical_of_structural undeclared
      rw [RuntimeType.structuralSpelling, shape]
      exact .slice elem
  | array undeclared shape _ elem =>
      rw [TypeTree.name]
      apply canonical_of_structural undeclared
      rw [RuntimeType.structuralSpelling, shape]
      exact .array _ elem
  | chan undeclared shape _ elem =>
      rw [TypeTree.name]
      apply canonical_of_structural undeclared
      rw [RuntimeType.structuralSpelling, shape]
      exact .chan _ elem
  | map undeclared shape _ _ key elem =>
      rw [TypeTree.name]
      apply canonical_of_structural undeclared
      rw [RuntimeType.structuralSpelling, shape]
      exact .map key elem
  | func undeclared shape sameParams sameResults _ _ params results =>
      rw [TypeTree.name]
      apply canonical_of_structural undeclared
      rw [RuntimeType.structuralSpelling, shape]
      exact .func _ (parts_canonical sameParams params) (parts_canonical sameResults results)
  | struct undeclared shape same _ fields =>
      rw [TypeTree.name]
      apply canonical_of_structural undeclared
      rw [RuntimeType.structuralSpelling, shape]
      exact .struct (fields_canonical same fields)

end TypeAtlas.Naming
