import TypeAtlas.Descriptor.Basic
import TypeAtlas.Descriptor.Fault

/-!
Resolvers: functions from an address, given the bases of the types sections, to the descriptor
that stands there.
-/

namespace TypeAtlas

set_option autoImplicit false

abbrev Resolver := List Address → Address → Except DescriptorFault RuntimeType

/-- The base of the section that holds `address`: the greatest base not above it. -/
def owningSection (sections : List Address) (address : Address) : Option Address :=
  (sections.filter (· ≤ address)).max?

namespace Resolver

/-- Every descriptor the resolver answers carries the address it was asked for. -/
def Faithful (resolve : Resolver) : Prop :=
  ∀ sections address type, resolve sections address = .ok type → type.address = some address

/-- Looks addresses up among given descriptors, of which a later one shadows an earlier one.
Sections play no part, and descriptors without an address are never found. -/
def ofTypes (types : List RuntimeType) : Resolver := fun _ address =>
  match types.reverse.find? (·.address == some address) with
  | some type => .ok type
  | none => .error (.layout address .absent)

theorem faithful_ofTypes (types : List RuntimeType) : (ofTypes types).Faithful := by
  intro sections address type found
  unfold ofTypes at found
  split at found
  · rename_i held search
    cases found
    simpa using List.find?_some search
  · cases found

end Resolver

end TypeAtlas
