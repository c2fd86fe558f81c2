import TypeAtlas.Dwarf.Abbreviation

/-!
Forms: how the value of an attribute is laid out.
-/

namespace TypeAtlas.Dwarf

set_option autoImplicit false

/-- The width of offsets in a unit. -/
inductive OffsetFormat where
  | narrow
  | wide
deriving DecidableEq, Repr

def OffsetFormat.size : OffsetFormat → Nat
  | .narrow => 4
  | .wide => 8

structure Encoding where
  offsetFormat : OffsetFormat
  version : Nat
  addressSize : Nat
deriving DecidableEq, Repr

inductive Form where
  | address
  /-- A length of `width` bytes, then that many bytes. -/
  | sizedBlock (width : Nat)
  | block
  | constant (width : Nat)
  | flag
  | signedConstant
  | unsignedConstant
  | implicitConstant
  | presentFlag
  | inlineText
  | textOffset
  | lineTextOffset
  | sectionOffset
  /-- An offset into a file or section that is not at hand. -/
  | foreignOffset
  | unitReference
  | sizedReference (width : Nat)
  | numberReference
  | textIndex
  | sizedTextIndex (width : Nat)
  | addressIndex
  | sizedAddressIndex (width : Nat)
  | listIndex
  | indirect
deriving DecidableEq, Repr

def Form.ofCode? : Nat → Option Form
  | 0x01 => some .address
  | 0x03 => some (.sizedBlock 2)
  | 0x04 => some (.sizedBlock 4)
  | 0x05 => some (.constant 2)
  | 0x06 => some (.constant 4)
  | 0x07 => some (.constant 8)
  | 0x08 => some .inlineText
  | 0x09 => some .block
  | 0x0a => some (.sizedBlock 1)
  | 0x0b => some (.constant 1)
  | 0x0c => some .flag
  | 0x0d => some .signedConstant
  | 0x0e => some .textOffset
  | 0x0f => some .unsignedConstant
  | 0x10 => some .unitReference
  | 0x11 => some (.sizedReference 1)
  | 0x12 => some (.sizedReference 2)
  | 0x13 => some (.sizedReference 4)
  | 0x14 => some (.sizedReference 8)
  | 0x15 => some .numberReference
  | 0x16 => some .indirect
  | 0x17 => some .sectionOffset
  | 0x18 => some .block
  | 0x19 => some .presentFlag
  | 0x1a => some .textIndex
  | 0x1b => some .addressIndex
  | 0x1c => some (.sizedReference 4)
  | 0x1d => some .foreignOffset
  | 0x1e => some (.constant 16)
  | 0x1f => some .lineTextOffset
  | 0x20 => some (.sizedReference 8)
  | 0x21 => some .implicitConstant
  | 0x22 => some .listIndex
  | 0x23 => some .listIndex
  | 0x24 => some (.sizedReference 8)
  | 0x25 => some (.sizedTextIndex 1)
  | 0x26 => some (.sizedTextIndex 2)
  | 0x27 => some (.sizedTextIndex 3)
  | 0x28 => some (.sizedTextIndex 4)
  | 0x29 => some (.sizedAddressIndex 1)
  | 0x2a => some (.sizedAddressIndex 2)
  | 0x2b => some (.sizedAddressIndex 3)
  | 0x2c => some (.sizedAddressIndex 4)
  | 0x1f01 => some .addressIndex
  | 0x1f02 => some .textIndex
  | 0x1f20 => some .foreignOffset
  | 0x1f21 => some .foreignOffset
  | _ => none

/-- The values that names, addresses and places in sections are made from; all others are alike. -/
inductive FormValue where
  | address (value : Nat)
  | constant (width : Nat)
  | unsigned (value : Nat)
  | text (bytes : List UInt8)
  | textAt (offset : Nat)
  | lineTextAt (offset : Nat)
  | textIndex (index : Nat)
  | addressIndex (index : Nat)
  | sectionOffset (offset : Nat)
  | other
deriving DecidableEq, Repr

/-- Whether a value says where in a section something is. Before there was a form for this, a
constant as wide as an offset stood for one, and it still may. -/
def FormValue.isSectionOffset (offsetFormat : OffsetFormat) : FormValue → Bool
  | .sectionOffset _ => true
  | .constant width => width == offsetFormat.size
  | _ => false

namespace Form

open Reading

/-- The width of a reference to another unit, which version 2 made an address. -/
def unitReferenceSize (encoding : Encoding) : Nat :=
  if encoding.version = 2 then encoding.addressSize else encoding.offsetFormat.size

/-- Reads a value of a form that says itself what it is. `constantAtHand` tells whether the
abbreviation holds the constant that `implicitConstant` stands for. -/
def readDirect (encoding : Encoding) (constantAtHand : Bool) : Form → Reading FormValue
  | .address => do return .address (← word encoding.addressSize)
  | .sizedBlock width => do
      skip (← word width)
      return .other
  | .block => do
      skip (← unsigned64)
      return .other
  | .constant width => do
      skip width
      return .constant width
  | .flag => do
      skip 1
      return .other
  | .signedConstant => do
      signed64
      return .other
  | .unsignedConstant => do return .unsigned (← unsigned64)
  | .implicitConstant => if constantAtHand then return .other else throw .misplacedConstant
  | .presentFlag => return .other
  | .inlineText => do return .text (← text)
  | .textOffset => do return .textAt (← word encoding.offsetFormat.size)
  | .lineTextOffset => do return .lineTextAt (← word encoding.offsetFormat.size)
  | .sectionOffset => do return .sectionOffset (← word encoding.offsetFormat.size)
  | .foreignOffset => do
      skip encoding.offsetFormat.size
      return .other
  | .unitReference => do
      skip (unitReferenceSize encoding)
      return .other
  | .sizedReference width => do
      skip width
      return .other
  | .numberReference | .listIndex => do
      let _ ← unsigned64
      return .other
  | .textIndex => do return .textIndex (← unsigned64)
  | .sizedTextIndex width => do return .textIndex (← word width)
  | .addressIndex => do return .addressIndex (← unsigned64)
  | .sizedAddressIndex width => do return .addressIndex (← word width)
  | .indirect => throw .unknownForm

/-- The form that a code stands for once indirections are followed, each of which takes a byte or
more of the value, and whether there was none. -/
def resolve : Nat → Nat → Reading (Form × Bool)
  | rounds, code => do
      match ofCode? code with
      | none => throw .unknownForm
      | some .indirect =>
          match rounds with
          | 0 => throw .endOfData
          | rounds + 1 => do
              let (form, _) ← resolve rounds (← unsigned16)
              return (form, false)
      | some form => return (form, true)

def readValue (encoding : Encoding) (code : Nat) : Reading FormValue := do
  let (form, direct) ← resolve (← get).length code
  readDirect encoding direct form

end Form

end TypeAtlas.Dwarf
