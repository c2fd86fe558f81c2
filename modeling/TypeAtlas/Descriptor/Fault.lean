import TypeAtlas.Descriptor.Kind
import TypeAtlas.Memory.Image
import TypeAtlas.Text.Quoted

/-!
Why one descriptor cannot be read or named, and the record kept of it. A resolver other than the
decoder may say so in words of its own; each cause leaves room for them.
-/

namespace TypeAtlas

set_option autoImplicit false

/-- What a null reference should have led to. -/
inductive Referent where
  | descriptor
  | name
  | element
  | key
  | parameter
  | result
  | field
  | fieldArray
  | methodArray
  | reported (text : String)
deriving DecidableEq, Repr

def Referent.word : Referent → String
  | .descriptor => "descriptor"
  | .name => "name"
  | .element => "element"
  | .key => "key"
  | .parameter => "parameter"
  | .result => "result"
  | .field => "field"
  | .fieldArray => "field array"
  | .methodArray => "method array"
  | .reported text => text

inductive NameFault where
  | lengthTooLong
  | unreadable (fault : MemoryFault)
  | reported (text : String)
deriving DecidableEq, Repr

def NameFault.message : NameFault → String
  | .lengthTooLong => "length varint too long"
  | .unreadable fault => fault.message
  | .reported text => text

/-- How a descriptor breaks the layout. -/
inductive Violation where
  | outsideSections
  | misaligned
  | channelDirection (bits : UInt64)
  | elementCount (count : UInt64)
  | exportedMethods (exported total : UInt16)
  | methodKind (kind : Kind)
  | absent
  | reported (text : String)
deriving DecidableEq, Repr

def Violation.message : Violation → String
  | .outsideSections => "descriptor lies outside every types section"
  | .misaligned => "descriptor is not pointer aligned"
  | .channelDirection bits => s!"invalid channel direction {bits.toNat}"
  | .elementCount count => s!"implausible element count {count.toNat}"
  | .exportedMethods exported total => s!"{exported.toNat} exported of {total.toNat} methods"
  | .methodKind kind => s!"method type has kind {kind.name}"
  | .absent => "no descriptor"
  | .reported text => text

inductive DescriptorFault where
  | memory (fault : MemoryFault)
  | unknownKind (address : Address) (code : UInt8)
  | nullReference (address : Address) (referent : Referent)
  | invalidName (address : Address) (fault : NameFault)
  | nameTooDeep (limit : Nat)
  | layout (address : Address) (violation : Violation)
deriving DecidableEq, Repr

def DescriptorFault.message : DescriptorFault → String
  | .memory fault => s!"memory read failed: {fault.message}"
  | .unknownKind address code => s!"unknown kind {code.toNat} at {address}"
  | .nullReference address referent =>
      s!"null {referent.word} reference in descriptor at {address}"
  | .invalidName address fault => s!"invalid name at {address}: {fault.message}"
  | .nameTooDeep limit => s!"type name nesting exceeds {limit} levels"
  | .layout address violation => s!"layout violation at {address}: {violation.message}"

/-- The record of a type that could not be taken in whole. -/
structure TypeFailure where
  name : String
  address : Option Address
  repr : String
  reason : DescriptorFault
deriving DecidableEq, Repr

def TypeFailure.message (failure : TypeFailure) : String :=
  s!"failed to add type {Text.quoted failure.name} ({failure.repr}): {failure.reason.message}"

end TypeAtlas
