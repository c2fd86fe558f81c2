import TypeAtlas.Proofs.Inventory.Agreement

/-!
What an inventory lists under the name of an address. Descriptors, types of methods and
placeholders share the names, and where no two addresses have one name, only the last two can
stand in the place of a descriptor. They do so under their own names, so that every other address
leads to the descriptor that stands there.
-/

namespace TypeAtlas.Walk

set_option autoImplicit false

open Naming (Canonical Placing)

/-- No two addresses that a walk has been to have one canonical name. -/
def NamedApart (describe : Address → Except DescriptorFault RuntimeType) (found : Inventory) :
    Prop :=
  ∀ address ∈ found.byAddress, ∀ other ∈ found.byAddress, ∀ type otherType name,
    describe address = .ok type → describe other = .ok otherType →
      Canonical describe (.type type) name → Canonical describe (.type otherType) name →
        address = other

/-- What may be listed under the name of `type`: the type itself, the type of a method that has
the same name, or the placeholder that the name is reserved for. -/
inductive EntryFor (describe : Address → Except DescriptorFault RuntimeType)
    (roots : List Address) (type : RuntimeType) (name : String) : RuntimeType → Prop where
  | own : ¬Reserved name → EntryFor describe roots type name type
  | method {method : RuntimeType} :
      ReachedMethod describe roots method → Canonical describe (.type method) name →
        EntryFor describe roots type name (listed method name)
  | opaquePointer :
      name = opaquePointerName → EntryFor describe roots type name .opaquePointer
  | opaquePointerPointer :
      name = opaquePointerPointerName → EntryFor describe roots type name .opaquePointerPointer

/-- What the tables hold for an address at which `type` stands, and what a catalog over them
answers for it. -/
structure Registered (describe : Address → Except DescriptorFault RuntimeType)
    (roots : List Address) (found : Inventory) (address : Address) (type entry : RuntimeType)
    (name : String) : Prop where
  described : describe address = .ok type
  placed : type.address = some address
  canonical : Canonical describe (.type type) name
  addressed : found.byAddress[address]? = some name
  held : found.types[name]? = some entry
  kind : EntryFor describe roots type name entry
  own : ¬Reserved name →
    (∀ method, ReachedMethod describe roots method → ¬Canonical describe (.type method) name) →
      entry = type
  answered : ∀ (σ β : Type) [EntryStream σ] [CodeBinder β] (catalog : Catalog σ β),
    catalog.force.1 = .ok found → (catalog.typeAt address).1 = .ok entry

variable {describe : Address → Except DescriptorFault RuntimeType} {roots : List Address}
  {found : Inventory}

/-- An entry with an address is a descriptor under its own name, which no other address has. -/
theorem entry_of_placed (agreed : Agreed describe roots Reserved found)
    (apart : NamedApart describe found) {address place : Address} {type entry : RuntimeType}
    {name : String} (described : describe address = .ok type)
    (canonical : Canonical describe (.type type) name)
    (addressed : found.byAddress[address]? = some name) (held : found.types[name]? = some entry)
    (claims : entry.address = some place) : entry = type := by
  have ⟨back, again⟩ := agreed.placed name entry place held claims
  have ⟨_, other, otherDescribed, otherCanonical⟩ := agreed.addressed place name back
  have same : place = address := by
    apply apart place (mem_of_getElem? back) address (mem_of_getElem? addressed) other type name
    · exact otherDescribed
    · exact described
    · exact otherCanonical
    · exact canonical
  rw [same, described] at again
  cases again
  rfl

theorem held_opaquePointer {walk : Walk} :
    walk.listPlaceholders.found.types[opaquePointerName]? = some .opaquePointer := by
  have apart : compare opaquePointerPointerName opaquePointerName ≠ .eq := by decide
  unfold listPlaceholders
  rw [found_listType, found_listType]
  simp only [Inventory.insertType]
  rw [Std.TreeMap.getElem?_insert, if_neg apart, Std.TreeMap.getElem?_insert_self]

theorem held_opaquePointerPointer {walk : Walk} :
    walk.listPlaceholders.found.types[opaquePointerPointerName]? =
      some .opaquePointerPointer := by
  unfold listPlaceholders
  simp [Inventory.insertType]

theorem entryFor_held {walk : Walk} (found_eq : found = walk.listPlaceholders.found)
    (agreed : Agreed describe roots Reserved found) (apart : NamedApart describe found)
    {address : Address} {type entry : RuntimeType} {name : String}
    (described : describe address = .ok type) (canonical : Canonical describe (.type type) name)
    (addressed : found.byAddress[address]? = some name)
    (held : found.types[name]? = some entry) : EntryFor describe roots type name entry := by
  by_cases reserved : Reserved name
  · rcases reserved with rfl | rfl
    · rw [found_eq, held_opaquePointer] at held
      cases held
      exact .opaquePointer rfl
    · rw [found_eq, held_opaquePointerPointer] at held
      cases held
      exact .opaquePointerPointer rfl
  · cases claims : entry.address with
    | some place =>
        rw [entry_of_placed agreed apart described canonical addressed held claims]
        exact .own reserved
    | none =>
        have named := agreed.named name entry held reserved
        obtain ⟨method, within, rfl⟩ := agreed.unplaced name entry held reserved claims
        have ⟨_, _, _, _, _, _, form⟩ := within
        exact .method within (Naming.canonical_of_spelling (spelling_listed form name) named)

/-- Where no two addresses have one name, every address that a walk has been to leads to its own
descriptor, but for the names of placeholders and of methods. -/
theorem descriptors_registered (resolve : Resolver) (faithful : resolve.Faithful)
    (links : TypeLinks) (config : Config)
    (apart : NamedApart (resolve links.sections) (run resolve links config).found) :
    ∀ address ∈ (run resolve links config).found.byAddress, ∃ type entry name,
      Registered (resolve links.sections) links.roots (run resolve links config).found address
        type entry name := by
  intro address member
  have agreed := run_agreed faithful links config
  obtain ⟨name, addressed⟩ := getElem?_of_mem member
  obtain ⟨taken, type, described, canonical⟩ := agreed.addressed address name addressed
  obtain ⟨entry, held⟩ := getElem?_of_mem taken
  have kind := entryFor_held (found_run resolve links config) agreed apart described canonical
    addressed held
  have own : ¬Reserved name → (∀ method, ReachedMethod (resolve links.sections) links.roots method →
      ¬Canonical (resolve links.sections) (.type method) name) → entry = type := by
    intro unreserved unshared
    cases kind with
    | own => rfl
    | method within named => exact absurd named (unshared _ within)
    | opaquePointer same => exact absurd (Or.inl same) unreserved
    | opaquePointerPointer same => exact absurd (Or.inr same) unreserved
  refine ⟨type, entry, name, described, ?_, canonical, addressed, held, kind, own, ?_⟩
  · exact faithful links.sections address type described
  · intro σ β _ _ catalog built
    exact typeAt_found built addressed held

/-- It is enough that no name is written twice in the table of addresses. -/
theorem namedApart_of_nodup (agreed : Agreed describe roots Reserved found)
    (once : (found.byAddress.toList.map Prod.snd).Nodup) : NamedApart describe found := by
  have written : ∀ address ∈ found.byAddress, ∀ type name, describe address = .ok type →
      Canonical describe (.type type) name → (address, name) ∈ found.byAddress.toList := by
    intro address member type name described canonical
    obtain ⟨given, addressed⟩ := getElem?_of_mem member
    obtain ⟨_, known, again, named⟩ := agreed.addressed address given addressed
    rw [described] at again
    cases again
    rw [Naming.canonical_unique canonical named]
    exact Std.TreeMap.mem_toList_iff_getElem?_eq_some.mpr addressed
  intro address member other otherMember type otherType name described otherDescribed canonical
    again
  have left := written address member type name described canonical
  have right := written other otherMember otherType name otherDescribed again
  exact congrArg Prod.fst (List.inj_on_of_nodup_map once left right rfl)

/-- Every address leads to the descriptor that stands there. -/
def EachAtItsAddress (describe : Address → Except DescriptorFault RuntimeType)
    (found : Inventory) : Prop :=
  ∀ address ∈ found.byAddress, ∃ type, describe address = .ok type ∧
    found.typeAt? address = some type

/-- A function from nodes, written as the type of the method of `nodes` is. -/
def nodeFunction : RuntimeType :=
  ⟨some ⟨80⟩, .func, 8, none, none, "func(main.Node)", .func [.address ⟨48⟩] [] false⟩

def functionLinks : TypeLinks := ⟨[⟨0⟩], [[64, 80]]⟩

/-- A pointer to a type that is declared as `void`. -/
def voidPointer : List RuntimeType :=
  [⟨some ⟨16⟩, .pointer, 8, none, none, "*void", .pointer (.address ⟨32⟩)⟩,
    ⟨some ⟨32⟩, .struct, 0, some "void", none, "void", .struct [] []⟩]

def voidLinks : TypeLinks := ⟨[⟨0⟩], [[16]]⟩

theorem descriptors_registered_over_nodes :
    NamedApart (Resolver.ofTypes nodes [⟨0⟩]) (run (.ofTypes nodes) nodeLinks {}).found ∧
      ∃ type entry name, Registered (Resolver.ofTypes nodes [⟨0⟩]) [⟨64⟩]
        (run (.ofTypes nodes) nodeLinks {}).found ⟨48⟩ type entry name := by
  have faithful := Resolver.faithful_ofTypes nodes
  have apart : NamedApart (Resolver.ofTypes nodes [⟨0⟩])
      (run (.ofTypes nodes) nodeLinks {}).found :=
    namedApart_of_nodup (run_agreed faithful nodeLinks {}) (by decide +kernel)
  refine ⟨apart, ?_⟩
  apply descriptors_registered (.ofTypes nodes) faithful nodeLinks {} apart
  rw [Std.TreeMap.mem_iff_contains]
  decide +kernel

/-- A placeholder goes over a descriptor of its name, and the type of a method keeps one out that
comes later. In either case an address leads to an entry that does not stand there. -/
theorem descriptor_under_shared_name_missed :
    (NamedApart (Resolver.ofTypes voidPointer [⟨0⟩])
        (run (.ofTypes voidPointer) voidLinks {}).found ∧
      ¬EachAtItsAddress (Resolver.ofTypes voidPointer [⟨0⟩])
        (run (.ofTypes voidPointer) voidLinks {}).found) ∧
    NamedApart (Resolver.ofTypes (nodeFunction :: nodes) [⟨0⟩])
        (run (.ofTypes (nodeFunction :: nodes)) functionLinks {}).found ∧
      ¬EachAtItsAddress (Resolver.ofTypes (nodeFunction :: nodes) [⟨0⟩])
        (run (.ofTypes (nodeFunction :: nodes)) functionLinks {}).found := by
  have misled : ∀ (types : List RuntimeType) (links : TypeLinks) (address : Address)
      (entry : RuntimeType), address ∈ (run (.ofTypes types) links {}).found.byAddress →
      (run (.ofTypes types) links {}).found.typeAt? address = some entry → entry.address = none →
      ¬EachAtItsAddress (Resolver.ofTypes types links.sections)
        (run (.ofTypes types) links {}).found := by
    intro types links address entry member held without each
    obtain ⟨type, described, again⟩ := each address member
    rw [held] at again
    cases again
    rw [Resolver.faithful_ofTypes types _ _ _ described] at without
    cases without
  refine ⟨⟨?_, ?_⟩, ?_, ?_⟩
  · exact namedApart_of_nodup (run_agreed (Resolver.faithful_ofTypes _) voidLinks {})
      (by decide +kernel)
  · apply misled voidPointer voidLinks ⟨16⟩ .opaquePointer
    · rw [Std.TreeMap.mem_iff_contains]
      decide +kernel
    · decide +kernel
    · rfl
  · exact namedApart_of_nodup (run_agreed (Resolver.faithful_ofTypes _) functionLinks {})
      (by decide +kernel)
  · apply misled (nodeFunction :: nodes) functionLinks ⟨80⟩
      ⟨none, .func, 8, none, none, "func(main.Node)", .func [.address ⟨48⟩] [] false⟩
    · rw [Std.TreeMap.mem_iff_contains]
      decide +kernel
    · decide +kernel
    · rfl

end TypeAtlas.Walk
