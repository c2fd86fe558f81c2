import TypeAtlas.Descriptor.Fault
import TypeAtlas.Memory.Image

/-!
Names as descriptors encode them: a byte of flags, the length of the text in groups of seven bits
with the lowest group first, and the text. Every group but the last has its top bit set.
-/

namespace TypeAtlas

set_option autoImplicit false

structure NameFlags where
  exported : Bool
  tagged : Bool
  packaged : Bool
  embedded : Bool
deriving DecidableEq, Repr, Inhabited

/-- The low four bits count, the others are ignored. -/
def NameFlags.ofByte (byte : UInt8) : NameFlags where
  exported := byte.toNat.testBit 0
  tagged := byte.toNat.testBit 1
  packaged := byte.toNat.testBit 2
  embedded := byte.toNat.testBit 3

structure EncodedName where
  flags : NameFlags
  text : String
deriving DecidableEq, Repr, Inhabited

namespace EncodedName

/-- No length has more bits than these: a group that would begin above them is refused. -/
def lengthBits : Nat := 35

/-- The length that the groups from `cursor` on spell, and the address after them. The groups
before them have filled the bits of `length` below `shift`. The fault names the address of the
whole name. -/
def readLength (image : Image) (name : Address) (shift : Nat) (length : UInt64)
    (cursor : Address) : Except DescriptorFault (UInt64 × Address) := do
  let byte ← (image.readUInt8 cursor).mapError .memory
  let filled := length ||| (byte &&& 0x7F).toUInt64 <<< UInt64.ofNat shift
  if byte &&& 0x80 = 0 then
    return (filled, cursor + 1)
  else if shift + 7 < lengthBits then
    readLength image name (shift + 7) filled (cursor + 1)
  else
    throw (.invalidName name .lengthTooLong)
termination_by lengthBits - shift

def read (image : Image) (address : Address) : Except DescriptorFault EncodedName := do
  if address.isNull then
    throw (.nullReference address .name)
  let flags ← (image.readUInt8 address).mapError .memory
  let (length, start) ← readLength image address 0 0 (address + 1)
  let text ← (image.readText start length.toNat).mapError
    fun fault => .invalidName address (.unreadable fault)
  return ⟨.ofByte flags, text⟩

end EncodedName

end TypeAtlas
