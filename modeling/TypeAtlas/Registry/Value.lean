import TypeAtlas.Registry.Signature

/-!
What the registry hands out, and values as a bound call returns them, two of which are read as
that. A sequence declares the shape of its items, which need not agree with it, so that a value is
looked through before anything in it is used.
-/

namespace TypeAtlas

set_option autoImplicit false

/-- The bases of the types sections and, for each, the offsets of the descriptors in it. -/
structure TypeLinks where
  sections : List Address
  offsets : List (List UInt32)
deriving DecidableEq, Repr, Inhabited

namespace TypeLinks

def descriptorCount (links : TypeLinks) : Nat := links.offsets.flatten.length

def tables (links : TypeLinks) : List (Address × List UInt32) :=
  links.sections.zip links.offsets

/-- Each descriptor's section base and own address, in registry order. -/
def descriptorAddresses (links : TypeLinks) : List (Address × Address) :=
  links.tables.flatMap fun (base, offsets) =>
    offsets.map fun offset => (base, base + offset.toUInt64)

/-- The addresses a walk starts from. -/
def roots (links : TypeLinks) : List Address := links.descriptorAddresses.map Prod.snd

end TypeLinks

inductive DynValue where
  | opaquePointer (address : Address)
  | uint32 (value : UInt32)
  | uint64 (value : UInt64)
  | sequence (elem : ValueShape) (items : List DynValue)
deriving Repr, Inhabited

namespace DynValue

/-- The declared shape. -/
def shape : DynValue → ValueShape
  | .opaquePointer _ => .opaquePointer
  | .uint32 _ => .uint32
  | .uint64 _ => .uint64
  | .sequence elem _ => .sequence elem

mutual

/-- Whether the value, and every item below it, has exactly the expected shape. -/
def conformsTo : DynValue → ValueShape → Bool
  | .opaquePointer _, .opaquePointer => true
  | .uint32 _, .uint32 => true
  | .uint64 _, .uint64 => true
  | .sequence elem items, .sequence expected => elem == expected && allConform items expected
  | _, _ => false

def allConform : List DynValue → ValueShape → Bool
  | [], _ => true
  | item :: later, expected => item.conformsTo expected && allConform later expected

end

def asPointer? : DynValue → Option Address
  | .opaquePointer address => some address
  | _ => none

def asUInt32? : DynValue → Option UInt32
  | .uint32 value => some value
  | _ => none

def items? : DynValue → Option (List DynValue)
  | .sequence _ items => some items
  | _ => none

end DynValue

/-- How returned values differ from type links. -/
inductive LinksMismatch where
  | resultCount (count : Nat)
  | resultShape (shape expected : ValueShape)
  | tableCount (sections tables : Nat)
deriving DecidableEq, Repr

def LinksMismatch.message : LinksMismatch → String
  | .resultCount count => s!"wrong number of output results: {count}"
  | .resultShape shape expected =>
      s!"wrong type of result: {shape.render} (expected {expected.render})"
  | .tableCount sections tables => s!"{sections} sections but {tables} offset tables"

namespace TypeLinks

def sectionsValue (links : TypeLinks) : DynValue :=
  .sequence .opaquePointer (links.sections.map .opaquePointer)

def tableValue (offsets : List UInt32) : DynValue := .sequence .uint32 (offsets.map .uint32)

def offsetsValue (links : TypeLinks) : DynValue :=
  .sequence (.sequence .uint32) (links.offsets.map tableValue)

/-- The values that the registry function returns for these links. -/
def toValues (links : TypeLinks) : List DynValue := [links.sectionsValue, links.offsetsValue]

/-- The links that values of the right shapes hold. -/
def extract (sections offsets : DynValue) : TypeLinks where
  sections := (sections.items?.getD []).filterMap DynValue.asPointer?
  offsets := (offsets.items?.getD []).map fun table =>
    (table.items?.getD []).filterMap DynValue.asUInt32?

/-- The links, if every check passes: their number, then each shape, then the two lengths. -/
def ofValues : List DynValue → Except LinksMismatch TypeLinks
  | [sections, offsets] =>
      if !sections.conformsTo FuncSignature.sectionsShape then
        .error (.resultShape sections.shape FuncSignature.sectionsShape)
      else if !offsets.conformsTo FuncSignature.offsetsShape then
        .error (.resultShape offsets.shape FuncSignature.offsetsShape)
      else
        let links := extract sections offsets
        if links.sections.length = links.offsets.length then .ok links
        else .error (.tableCount links.sections.length links.offsets.length)
  | values => .error (.resultCount values.length)

end TypeLinks

end TypeAtlas
