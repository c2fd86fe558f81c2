import Std.Data.TreeMap.Basic
import TypeAtlas.Descriptor.Fault
import TypeAtlas.Naming.Spelling

/-!
Canonical names over a graph of descriptors. Names are remembered by address, also those found on
the way to a failure. Nesting is bounded, because a cycle of types that declare no name has no
finite spelling. A remembered name is given back at any depth.
-/

namespace TypeAtlas

set_option autoImplicit false

/-- The names found so far. -/
abbrev NameCache := Std.TreeMap Address String

/-- A computation that may fail, and keeps the names it has found even then. -/
abbrev Naming := ExceptT DescriptorFault (StateM NameCache)

namespace Naming

variable (describe : Address → Except DescriptorFault RuntimeType) (limit : Nat)

def remember (address : Option Address) (name : String) : Naming Unit :=
  match address with
  | none => return
  | some known => modify (·.insert known name)

/-- The name of what a reference leads to, which `nameType` gives unless it is remembered. -/
@[specialize]
def nameRefWith (nameType : RuntimeType → Naming String) : TypeRef → Naming String
  | .opaquePointer => return opaquePointerName
  | .address target => do
      let names ← get
      match names[target]? with
      | some name => return name
      | none =>
          let type ← describe target
          nameType type

/-- Names a type whose spelling may nest through `levels` levels, its own included. -/
def nameWithin : Nat → RuntimeType → Naming String
  | 0, _ => throw (.nameTooDeep limit)
  | levels + 1, type => do
      let names ← get
      match type.address.bind fun address => names[address]? with
      | some name => return name
      | none =>
          let spelled ← type.spelling.mapM (nameRefWith describe (nameWithin levels))
          let name := spelled.render
          remember type.address name
          return name

def nameOf (type : RuntimeType) : Naming String := nameWithin describe limit (limit + 1) type

def nameOfRef (reference : TypeRef) : Naming String :=
  nameRefWith describe (nameWithin describe limit (limit + 1)) reference

end Naming

end TypeAtlas
