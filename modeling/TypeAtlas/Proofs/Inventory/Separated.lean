import TypeAtlas.Proofs.Inventory.Registered
import TypeAtlas.Proofs.Naming.Reading

/-!
Names keep structures apart. No two types that are built differently are given one name, whoever
is asked and whatever was asked before; so a walk, which takes a name that it has listed for a
type that it has seen, never takes one structure for another.
-/

namespace TypeAtlas.Walk

set_option autoImplicit false

open Naming (Admitted Canonical Nameable Readable TypeTree Unfolds answers)

/-- Among some questions to one table of names, the subject is answered with the name. -/
def GivenName (resolve : Resolver) (sections : List Address) (limit : Nat) (subject : Nameable)
    (name : String) : Prop :=
  ∃ subjects : List Nameable, (∀ asked ∈ subjects, Admitted (resolve sections) asked) ∧
    (subject, Except.ok name) ∈ subjects.zip (answers (resolve sections) limit subjects .empty)

/-- What a walk has under one name is built alike: the types at two addresses, and a type and
the entry that is listed under its name. -/
structure KeptApart (describe : Address → Except DescriptorFault RuntimeType)
    (found : Inventory) : Prop where
  addresses : ∀ (address other : Address) (name : String) (tree otherTree : TypeTree),
    found.byAddress[address]? = some name → found.byAddress[other]? = some name →
      Unfolds describe (.ref (.address address)) tree →
        Unfolds describe (.ref (.address other)) otherTree →
          Readable tree → Readable otherTree → tree = otherTree
  entries : ∀ (type entry : RuntimeType) (tree entryTree : TypeTree),
    Unfolds describe (.type type) tree → found.types[tree.name]? = some entry →
      Unfolds describe (.type entry) entryTree →
        Readable tree → Readable entryTree → tree = entryTree

variable {describe : Address → Except DescriptorFault RuntimeType} {roots : List Address}

theorem canonical_of_given {resolve : Resolver} (faithful : resolve.Faithful)
    {sections : List Address} {limit : Nat} {subject : Nameable} {name : String}
    (given : GivenName resolve sections limit subject name) :
    Canonical (resolve sections) subject name := by
  obtain ⟨subjects, admitted, member⟩ := given
  have answered := Naming.questions_answered resolve faithful sections limit subjects admitted
  exact ((List.forall₂_iff_zip.mp answered).2 member).sound name rfl

theorem canonical_of_address {found : Inventory} (agreed : Agreed describe roots Reserved found)
    {address : Address} {name : String} (addressed : found.byAddress[address]? = some name) :
    Canonical describe (.ref (.address address)) name := by
  obtain ⟨_, type, described, levels, derived⟩ := agreed.addressed address name addressed
  exact ⟨levels, .described described derived⟩

/-- The placeholder of the opaque pointer spells itself otherwise, but only the opaque pointer has
its name. -/
theorem canonical_of_entry {walk : Walk}
    (agreed : Agreed describe roots Reserved walk.listPlaceholders.found) {type entry : RuntimeType}
    {tree : TypeTree} (unfolds : Unfolds describe (.type type) tree) (readable : Readable tree)
    (held : walk.listPlaceholders.found.types[tree.name]? = some entry) :
    Canonical describe (.type entry) tree.name := by
  by_cases reserved : Reserved tree.name
  · rcases reserved with opaqueName | pointerName
    · have opaqueTree : tree = .opaquePointer := by
        apply Naming.tree_of_name readable .opaquePointer
        rw [opaqueName, TypeTree.name]
      subst opaqueTree
      cases unfolds
    · rw [pointerName, held_opaquePointerPointer] at held
      cases held
      have derived : Naming.Derivable describe 1 (.type .opaquePointerPointer) ("*" ++ "*void") :=
        .pointer rfl rfl .opaquePointer
      rw [pointerName]
      exact ⟨1, derived⟩
  · exact agreed.named tree.name entry held reserved

/-- A name that is given twice is given to one structure, and nothing that is built otherwise
stands behind a name in what a walk finds. -/
theorem structures_kept_apart (resolve : Resolver) (faithful : resolve.Faithful) :
    (∀ (other : Resolver) (sections otherSections : List Address) (limit otherLimit : Nat)
      (subject otherSubject : Nameable) (name : String) (tree otherTree : TypeTree),
      other.Faithful → GivenName resolve sections limit subject name →
        GivenName other otherSections otherLimit otherSubject name →
          Unfolds (resolve sections) subject tree →
            Unfolds (other otherSections) otherSubject otherTree →
              Readable tree → Readable otherTree → tree = otherTree) ∧
    ∀ (links : TypeLinks) (config : Config),
      KeptApart (resolve links.sections) (run resolve links config).found := by
  constructor
  · intro other sections otherSections limit otherLimit subject otherSubject name tree otherTree
      otherFaithful given otherGiven unfolds otherUnfolds readable otherReadable
    exact Naming.tree_of_canonical unfolds otherUnfolds readable otherReadable
      (canonical_of_given faithful given) (canonical_of_given otherFaithful otherGiven)
  · intro links config
    have agreed := run_agreed faithful links config
    refine ⟨?_, ?_⟩
    · intro address other name tree otherTree addressed otherAddressed unfolds otherUnfolds readable
        otherReadable
      exact Naming.tree_of_canonical unfolds otherUnfolds readable otherReadable
        (canonical_of_address agreed addressed) (canonical_of_address agreed otherAddressed)
    · intro type entry tree entryTree unfolds held entryUnfolds readable entryReadable
      rw [found_run] at agreed held
      exact Naming.tree_of_canonical unfolds entryUnfolds readable entryReadable
        (Naming.canonical_of_unfolds unfolds) (canonical_of_entry agreed unfolds readable held)

/-- A struct without a name. -/
def lastHolder : RuntimeType :=
  ⟨some ⟨80⟩, .struct, 8, none, none, "", .struct [⟨"last", .address ⟨64⟩, 0, false⟩] []⟩

/-- Two copies of a function that is variadic, takes channels of channels and answers a struct. -/
def twins : List RuntimeType :=
  [.primitive ⟨16⟩ .int 8,
    ⟨some ⟨32⟩, .chan, 8, none, none, "", .chan (.address ⟨16⟩) .recv⟩,
    ⟨some ⟨48⟩, .chan, 8, none, none, "", .chan (.address ⟨32⟩) .both⟩,
    ⟨some ⟨64⟩, .slice, 24, none, none, "", .slice (.address ⟨48⟩)⟩,
    lastHolder,
    ⟨some ⟨96⟩, .func, 8, none, none, "", .func [.address ⟨64⟩] [.address ⟨80⟩] true⟩,
    ⟨some ⟨112⟩, .slice, 24, none, none, "", .slice (.address ⟨48⟩)⟩,
    ⟨some ⟨128⟩, .func, 8, none, none, "", .func [.address ⟨112⟩] [.address ⟨80⟩] true⟩]

def twinLinks : TypeLinks := ⟨[⟨0⟩], [[96, 128]]⟩

def channelTree : TypeTree := .slice (.chan .both (.chan .recv (.leaf "int")))

def twinTree : TypeTree := .func [channelTree] [.struct [("last", channelTree)]] true

theorem channel_unfolds {address : Address}
    (described : ∃ place, Resolver.ofTypes twins [⟨0⟩] address =
      .ok ⟨place, .slice, 24, none, none, "", .slice (.address ⟨48⟩)⟩) :
    Unfolds (Resolver.ofTypes twins [⟨0⟩]) (.ref (.address address)) channelTree := by
  obtain ⟨place, described⟩ := described
  apply Unfolds.described described
  apply Unfolds.slice (by rfl) (by rfl)
  apply Unfolds.described (by rfl)
  apply Unfolds.chan (by rfl) (by rfl)
  apply Unfolds.described (by rfl)
  apply Unfolds.chan (by rfl) (by rfl)
  apply Unfolds.described (by rfl)
  exact .leaf rfl

theorem last_holder_unfolds : Unfolds (Resolver.ofTypes twins [⟨0⟩]) (.type lastHolder)
    (.struct [("last", channelTree)]) := by
  have each : ∀ field tree, (field, tree) ∈ lastHolder.fields.zip [channelTree] →
      Unfolds (Resolver.ofTypes twins [⟨0⟩]) (.ref field.type) tree := by
    intro field tree member
    cases List.mem_singleton.mp member
    exact channel_unfolds ⟨_, rfl⟩
  exact @Unfolds.struct _ lastHolder lastHolder.fields [] [channelTree] rfl rfl rfl each

theorem twin_unfolds {address params : Address}
    (described : ∃ place, Resolver.ofTypes twins [⟨0⟩] address =
      .ok ⟨place, .func, 8, none, none, "", .func [.address params] [.address ⟨80⟩] true⟩)
    (channel : Unfolds (Resolver.ofTypes twins [⟨0⟩]) (.ref (.address params)) channelTree) :
    Unfolds (Resolver.ofTypes twins [⟨0⟩]) (.ref (.address address)) twinTree := by
  obtain ⟨place, described⟩ := described
  apply Unfolds.described described
  apply Unfolds.func (by rfl) (by rfl) rfl rfl
  · intro part tree member
    cases List.mem_singleton.mp member
    exact channel
  · intro part tree member
    cases List.mem_singleton.mp member
    exact .described rfl last_holder_unfolds

theorem channel_readable : Readable channelTree := by
  have word : Naming.Word "int" := by decide
  exact .slice (.chan (.chan (.leaf word (by decide))))

theorem twin_readable : Readable twinTree := by
  have last : Naming.Word "last" := by decide
  apply Readable.func
  · simpa using channel_readable
  · have label : Readable (.struct [("last", channelTree)]) := by
      apply Readable.struct
      · simpa using last
      · simpa using channel_readable
    simpa using label
  · intro _
    exact ⟨[], _, rfl⟩

def twinName : String := "func(...chan <-chan int) struct \x7blast []chan <-chan int\x7d"

theorem twin_given {address : Address} (twin : address = ⟨96⟩ ∨ address = ⟨128⟩) :
    GivenName (.ofTypes twins) [⟨0⟩] 64 (.ref (.address address)) twinName := by
  refine ⟨[.ref (.address address)], by simp [Admitted], ?_⟩
  rcases twin with rfl | rfl <;> decide +kernel

theorem structures_kept_apart_over_twins :
    (∃ tree otherTree, Unfolds (Resolver.ofTypes twins [⟨0⟩]) (.ref (.address ⟨96⟩)) tree ∧
      Unfolds (Resolver.ofTypes twins [⟨0⟩]) (.ref (.address ⟨128⟩)) otherTree ∧
        GivenName (.ofTypes twins) [⟨0⟩] 64 (.ref (.address ⟨96⟩)) twinName ∧
          GivenName (.ofTypes twins) [⟨0⟩] 64 (.ref (.address ⟨128⟩)) twinName ∧
            tree = otherTree) ∧
      KeptApart (Resolver.ofTypes twins [⟨0⟩]) (run (.ofTypes twins) twinLinks {}).found ∧
        (run (.ofTypes twins) twinLinks {}).found.typeNames =
          ["**void", "*void", "<-chan int", "[]chan <-chan int", "chan <-chan int",
            twinName, "int", "struct \x7blast []chan <-chan int\x7d"] := by
  have faithful := Resolver.faithful_ofTypes twins
  have apart := structures_kept_apart (.ofTypes twins) faithful
  have left : Unfolds (Resolver.ofTypes twins [⟨0⟩]) (.ref (.address ⟨96⟩)) twinTree :=
    twin_unfolds ⟨_, rfl⟩ (channel_unfolds ⟨_, rfl⟩)
  have right : Unfolds (Resolver.ofTypes twins [⟨0⟩]) (.ref (.address ⟨128⟩)) twinTree :=
    twin_unfolds ⟨_, rfl⟩ (channel_unfolds ⟨_, rfl⟩)
  have given := twin_given (Or.inl rfl)
  have again := twin_given (Or.inr rfl)
  refine ⟨⟨twinTree, twinTree, left, right, given, again, ?_⟩, apart.2 twinLinks {}, ?_⟩
  · exact apart.1 (.ofTypes twins) [⟨0⟩] [⟨0⟩] 64 64 _ _ twinName twinTree twinTree faithful given
      again left right twin_readable twin_readable
  · decide +kernel

end TypeAtlas.Walk
