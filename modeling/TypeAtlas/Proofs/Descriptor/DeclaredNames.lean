import TypeAtlas.Proofs.Descriptor.Accepted
import TypeAtlas.Proofs.Naming.Answers

/-!
Declared names with type arguments. A name whose brackets are matched and whose dots are all
inside of brackets is the declared one behind any package and dot, whatever its arguments, and the
path of the package is put in front of it.
-/

namespace TypeAtlas.RuntimeType

set_option autoImplicit false

open Naming (Admitted Canonical Nameable answers)

/-! ### Descriptors -/

section Readers

variable (image : Image) (address : Address)

theorem readByte_yields :
    Yields (readByte image address) fun byte => image.readUInt8 address = .ok byte := by
  intro byte read
  unfold readByte at read
  cases found : image.readUInt8 address with
  | error fault =>
      rw [found] at read
      cases read
  | ok other =>
      rw [found] at read
      cases read
      rfl

/-- Where the flags say that a type is declared, its name is the short one. -/
theorem decode_named (layout : DescriptorLayout) (sectionBase : Address) :
    Yields (decode image layout sectionBase address) fun type =>
      ∃ flagByte, image.readUInt8 (address + 20) = .ok flagByte ∧
        type.name = if (Flags.ofByte flagByte).named then some (shortName type.repr) else none := by
  rw [decode]
  split
  · exact yields_error
  split
  · exact yields_error
  refine yields_bind yields_any ?_
  intro size _
  refine yields_bind (readByte_yields image (address + 20)) ?_
  intro flagByte flags
  refine yields_bind yields_any ?_
  intro kindByte _
  dsimp only
  split
  · exact yields_error
  refine yields_bind yields_any ?_
  intro textOffset _
  refine yields_bind yields_any ?_
  intro text _
  split
  all_goals
    refine yields_bind yields_any ?_
    intro uncommon _
    refine yields_bind yields_any ?_
    intro shape _
    exact yields_pure ⟨flagByte, flags, rfl⟩

end Readers

section Naming

variable {image : Image} {layout : DescriptorLayout} {sections : List Address}
  {address : Address} {type : RuntimeType}

theorem wellFormed_of_resolved (resolved : Resolver.ofImage image layout sections address = .ok type) :
    WellFormed sections address type ∧ ∃ flagByte, image.readUInt8 (address + 20) = .ok flagByte ∧
      type.name = if (Flags.ofByte flagByte).named then some (shortName type.repr) else none := by
  rw [Resolver.ofImage] at resolved
  split at resolved
  · cases resolved
  · rename_i sectionBase held
    have among := List.mem_filter.mp (List.max?_mem held)
    have owned : ∃ base ∈ sections, base ≤ address :=
      ⟨sectionBase, among.1, of_decide_eq_true among.2⟩
    exact ⟨decode_yields image address sectionBase layout sections owned type resolved,
      decode_named image address layout sectionBase type resolved⟩

theorem placing_of_image (image : Image) (layout : DescriptorLayout) (sections : List Address) :
    Naming.Placing (Resolver.ofImage image layout sections) :=
  fun _ _ found => (wellFormed_of_resolved found).1.placed

/-- A declared type of a package has its name behind the path of the package. -/
theorem canonical_of_declared {describe : Address → Except DescriptorFault RuntimeType}
    {name path : String} (found : describe address = .ok type) (named : type.name = some name)
    (filled : name ≠ "") (package : type.pkgPath = some path) (filledPath : path ≠ "")
    (limit : Nat) {subject : Nameable}
    (among : subject = .type type ∨ subject = .ref (.address address)) :
    Naming.CanonicalWithin describe limit subject (path ++ "." ++ name) := by
  have derived : Naming.Derivable describe (limit + 1) (.type type) (path ++ "." ++ name) :=
    .qualified named filled package filledPath
  rcases among with rfl | rfl
  · exact derived
  · exact .described found derived

/-- Asked for itself or for what stands at the address, the type is answered with the name. -/
def NamedAs (type : RuntimeType) (address : Address) (name : String) (subject : Nameable)
    (answer : Except DescriptorFault String) : Prop :=
  subject = .type type ∨ subject = .ref (.address address) → answer = .ok name

theorem answered_by_path {describe : Address → Except DescriptorFault RuntimeType}
    (placing : Naming.Placing describe) {name path : String} (found : describe address = .ok type)
    (named : type.name = some name) (filled : name ≠ "") (package : type.pkgPath = some path)
    (filledPath : path ≠ "") (limit : Nat) (subjects : List Nameable)
    (admitted : ∀ subject ∈ subjects, Admitted describe subject) :
    List.Forall₂ (NamedAs type address (path ++ "." ++ name)) subjects
      (answers describe limit subjects .empty) := by
  refine (Naming.answers_answered placing subjects admitted Naming.empty_truthful).imp ?_
  intro subject answer owed among
  exact owed.complete _ (canonical_of_declared found named filled package filledPath limit among)

end Naming

/-- The descriptor at the address is flagged as that of a declared type, lies in a package, and
has `name` behind a dot in its runtime string. -/
structure Declares (image : Image) (layout : DescriptorLayout) (sections : List Address)
    (address : Address) (type : RuntimeType) (front name path : String) : Prop where
  resolved : Resolver.ofImage image layout sections address = .ok type
  flagged : ∃ flagByte, image.readUInt8 (address + 20) = .ok flagByte ∧
    flagByte.toNat.testBit 2 = true
  runtime : type.repr = front ++ "." ++ name
  package : type.pkgPath = some path

theorem name_of_declares {image : Image} {layout : DescriptorLayout} {sections : List Address}
    {address : Address} {type : RuntimeType} {front name path : String}
    (enclosed : Enclosed name.toList) (shallow : Shallow name.toList)
    (declares : Declares image layout sections address type front name path) :
    type.name = some name ∧ path ≠ "" := by
  obtain ⟨wellFormed, flagByte, read, named⟩ := wellFormed_of_resolved declares.resolved
  obtain ⟨other, otherRead, flag⟩ := declares.flagged
  rw [read] at otherRead
  cases otherRead
  refine ⟨?_, ?_⟩
  · have flags : (Flags.ofByte flagByte).named = true := flag
    rw [named, if_pos flags, declares.runtime, shortName_qualified enclosed shallow front]
  · intro blank
    apply wellFormed.path
    rw [declares.package, blank]

/-- Whatever stands in front of its dot, a name whose own dots are inside of brackets is found
whole, if fewer than 2 ^ 31 of its brackets are open at once. So a declared type with such a name,
unless that is empty, is named by its package path and the name: by the rules, and by every answer
on it among answers to any questions. -/
theorem declared_names_kept (name : String) (enclosed : Enclosed name.toList)
    (shallow : Shallow name.toList) :
    (∀ front : String, shortName (front ++ "." ++ name) = name) ∧ shortName name = name ∧
      ∀ (image : Image) (layout : DescriptorLayout) (sections : List Address) (address : Address)
        (type : RuntimeType) (front path : String),
        Declares image layout sections address type front name path → name ≠ "" →
          type.name = some name ∧
          Canonical (Resolver.ofImage image layout sections) (.ref (.address address))
            (path ++ "." ++ name) ∧
          ∀ (limit : Nat) (subjects : List Nameable),
            (∀ subject ∈ subjects, Admitted (Resolver.ofImage image layout sections) subject) →
              List.Forall₂ (NamedAs type address (path ++ "." ++ name)) subjects
                (answers (Resolver.ofImage image layout sections) limit subjects .empty) := by
  refine ⟨shortName_qualified enclosed shallow, shortName_enclosed enclosed shallow, ?_⟩
  intro image layout sections address type front path declares filled
  obtain ⟨named, filledPath⟩ := name_of_declares enclosed shallow declares
  refine ⟨named, ?_, ?_⟩
  · exact ⟨_, canonical_of_declared declares.resolved named filled declares.package filledPath 0
      (Or.inr rfl)⟩
  · intro limit subjects admitted
    exact answered_by_path (placing_of_image image layout sections) declares.resolved named filled
      declares.package filledPath limit subjects admitted

/-- A declared type with type arguments, one of which has arguments of its own. -/
def boxName : String := "Box[example.com/日本.T[a.b],c/d.E]"

def boxImage : Image := ⟨⟨4096⟩, List.toArray (
  header 1 7 1 64 ++ spell 4 108 ++ List.replicate 12 0 ++
    shortNameBytes 0 ("*main." ++ boxName) ++ shortNameBytes 0 "example.com/main")⟩

def box : RuntimeType :=
  ⟨some ⟨4096⟩, .bool, 1, some boxName, some "example.com/main", "main." ++ boxName, .primitive⟩

theorem boxName_enclosed : Enclosed boxName.toList := by
  have spelled : boxName.toList = 'B' :: 'o' :: 'x' :: '[' ::
      (("example.com/日本.T".toList ++ '[' :: ("a.b".toList ++ ']' :: ",c/d.E".toList)) ++
        [']']) := by
    decide +kernel
  have inner : Matched ("a.b".toList ++ []) := matched_run (by simp) .nil
  have last : Matched (",c/d.E".toList ++ []) := matched_run (by simp) .nil
  rw [List.append_nil] at inner last
  have arguments : Matched ("example.com/日本.T".toList ++ _) :=
    matched_run (by simp) (.bracketed inner last)
  rw [spelled]
  exact .plain (by decide) (by decide) (by decide) (.plain (by decide) (by decide) (by decide)
    (.plain (by decide) (by decide) (by decide) (.bracketed arguments .nil)))

theorem declared_names_kept_over_box :
    Enclosed boxName.toList ∧ Shallow boxName.toList ∧
      Declares boxImage .buckets [⟨4096⟩] ⟨4096⟩ box "main" boxName "example.com/main" ∧
      shortName ("main." ++ boxName) = boxName ∧
      List.Forall₂ (NamedAs box ⟨4096⟩ ("example.com/main." ++ boxName))
        [.ref (.address ⟨8⟩), .ref (.address ⟨4096⟩), .type box]
        (answers (Resolver.ofImage boxImage .buckets [⟨4096⟩]) 0
          [.ref (.address ⟨8⟩), .ref (.address ⟨4096⟩), .type box] .empty) := by
  have resolved : Resolver.ofImage boxImage .buckets [⟨4096⟩] ⟨4096⟩ = .ok box := by
    decide +kernel
  have declares : Declares boxImage .buckets [⟨4096⟩] ⟨4096⟩ box "main" boxName
      "example.com/main" :=
    ⟨resolved, ⟨7, by decide +kernel, by decide⟩, by decide +kernel, rfl⟩
  have shallow : Shallow boxName.toList := shallow_of_short (by decide +kernel)
  obtain ⟨short, _, kept⟩ := declared_names_kept boxName boxName_enclosed shallow
  obtain ⟨_, _, answered⟩ := kept _ _ _ _ _ _ _ declares (by decide +kernel)
  refine ⟨boxName_enclosed, shallow, declares, short "main", answered 0 _ ?_⟩
  intro subject member
  simp only [List.mem_cons, List.not_mem_nil, or_false] at member
  rcases member with rfl | rfl | rfl
  · trivial
  · trivial
  · exact Or.inr ⟨⟨4096⟩, resolved⟩

/-- A declared type of a package whose runtime string ends with its dot. -/
def namelessImage : Image := ⟨⟨4096⟩, List.toArray (
  header 1 5 1 64 ++ spell 4 71 ++ List.replicate 12 0 ++
    shortNameBytes 0 "main." ++ shortNameBytes 0 "example.com/main")⟩

def nameless : RuntimeType :=
  ⟨some ⟨4096⟩, .bool, 1, some "", some "example.com/main", "main.", .primitive⟩

/-- An empty declared name counts as none, so the package path is not put in front of it. And a
name that nests 2 ^ 32 brackets around a dot is cut at that dot, where the counter stands at zero
again. -/
theorem empty_and_nested_names_not_kept :
    (Enclosed "".toList ∧
      Declares namelessImage .buckets [⟨4096⟩] ⟨4096⟩ nameless "main" "" "example.com/main" ∧
      answers (Resolver.ofImage namelessImage .buckets [⟨4096⟩]) 64 [.ref (.address ⟨4096⟩)]
        .empty = [.ok "main."] ∧ "main." ≠ "example.com/main" ++ "." ++ "") ∧
    Enclosed (nestedName (2 ^ 32)).toList ∧
      shortName ("main" ++ "." ++ nestedName (2 ^ 32)) = closings (2 ^ 32) ∧
      closings (2 ^ 32) ≠ nestedName (2 ^ 32) := by
  refine ⟨⟨.nil, ⟨by decide +kernel, ⟨5, by decide +kernel, by decide⟩, by decide +kernel, rfl⟩,
    ?_, ?_⟩, ?_, ?_, ?_⟩
  · decide +kernel
  · decide +kernel
  · exact nestedName_enclosed (by decide)
  · exact shortName_nestedName (by decide) "main"
  · exact closings_ne_nestedName (2 ^ 32)

end TypeAtlas.RuntimeType
