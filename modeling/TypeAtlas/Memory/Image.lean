import TypeAtlas.Address
import TypeAtlas.Text.Utf8

/-!
A flat memory image: the bytes from a base address upwards, and why a read of memory fails. A read
answers the bytes it asks for or nothing at all. Bounds are decided in unbounded numbers where a length is a number, and in
words, with a check of every difference and sum, where a caller gives it as a word. Neither way can
a sum wrap into the image from outside.
-/

namespace TypeAtlas

set_option autoImplicit false

/-- Why a dump could not be opened. -/
inductive FileFault where
  | missing
deriving DecidableEq, Repr

def FileFault.message : FileFault → String
  | .missing => "No such file or directory (os error 2)"

inductive MemoryFault where
  | file (fault : FileFault)
  | outOfBounds (address : Address)
  | invalidText (address : Address) (fault : Text.Utf8.Fault)
  /-- Said by a memory that is not an image, in words of its own. -/
  | reported (text : String)
deriving DecidableEq, Repr

def MemoryFault.message : MemoryFault → String
  | .file fault => s!"image I/O failed: {fault.message}"
  | .outOfBounds address => s!"address {address} is outside the image"
  | .invalidText address fault => s!"invalid data at {address}: {fault.message}"
  | .reported text => text

structure Image where
  base : Address
  bytes : Array UInt8
deriving DecidableEq, Repr, Inhabited

/-- The number that bytes spell, least significant byte first. -/
def littleEndian : List UInt8 → Nat
  | [] => 0
  | byte :: higher => byte.toNat + 256 * littleEndian higher

/-- The difference of two words, unless it falls below zero. -/
def difference? (left right : UInt64) : Option UInt64 :=
  if right ≤ left then some (left - right) else none

/-- The sum of two words, unless it leaves them. A sum that has wrapped is less than its parts. -/
def sum? (left right : UInt64) : Option UInt64 :=
  if left + right < left then none else some (left + right)

namespace Image

/-- The image that stands for a dump, unless the dump could not be opened. -/
def ofDump (base : Address) : Except FileFault (Array UInt8) → Except MemoryFault Image
  | .error fault => .error (.file fault)
  | .ok bytes => .ok ⟨base, bytes⟩

/-- How far above the base an address lies; meaningful for addresses not below it. -/
def position (image : Image) (address : Address) : Nat :=
  address.val.toNat - image.base.val.toNat

def Covers (image : Image) (address : Address) (length : Nat) : Prop :=
  image.base ≤ address ∧ image.position address + length ≤ image.bytes.size

instance (image : Image) (address : Address) (length : Nat) :
    Decidable (image.Covers address length) :=
  inferInstanceAs (Decidable (_ ∧ _))

def read (image : Image) (address : Address) (length : Nat) :
    Except MemoryFault (List UInt8) :=
  if image.Covers address length then
    let start := image.position address
    .ok (image.bytes.extract start (start + length)).toList
  else .error (.outOfBounds address)

/-- The bytes between two places of the buffer, if it has both. -/
def slice? (image : Image) (start stop : UInt64) : Option (List UInt8) :=
  if start ≤ stop ∧ stop.toNat ≤ image.bytes.size then
    some (image.bytes.extract start.toNat stop.toNat).toList
  else none

/-- The bytes that stand at an address, if no step on the way to them leaves the words. -/
def window? (image : Image) (address : Address) (length : UInt64) : Option (List UInt8) := do
  let start ← difference? address.val image.base.val
  let stop ← sum? start length
  image.slice? start stop

/-- The bytes that a caller asks for, with the length as a word. -/
def readBytes (image : Image) (address : Address) (length : UInt64) :
    Except MemoryFault (List UInt8) :=
  match image.window? address length with
  | some bytes => .ok bytes
  | none => .error (.outOfBounds address)

/-- The number spelled by the next `width` bytes. -/
def readNat (image : Image) (address : Address) (width : Nat) : Except MemoryFault Nat :=
  (image.read address width).map littleEndian

def readUInt8 (image : Image) (address : Address) : Except MemoryFault UInt8 :=
  (image.readNat address 1).map UInt8.ofNat

def readUInt16 (image : Image) (address : Address) : Except MemoryFault UInt16 :=
  (image.readNat address 2).map UInt16.ofNat

def readUInt32 (image : Image) (address : Address) : Except MemoryFault UInt32 :=
  (image.readNat address 4).map UInt32.ofNat

def readUInt64 (image : Image) (address : Address) : Except MemoryFault UInt64 :=
  (image.readNat address 8).map UInt64.ofNat

/-- Four bytes in two's complement. -/
def readInt32 (image : Image) (address : Address) : Except MemoryFault Int32 :=
  (image.readUInt32 address).map UInt32.toInt32

def readAddress (image : Image) (address : Address) : Except MemoryFault Address :=
  (image.readUInt64 address).map Address.mk

/-- Exactly `length` bytes, which have to be UTF-8 as a whole. -/
def readText (image : Image) (address : Address) (length : Nat) : Except MemoryFault String := do
  let bytes ← image.read address length
  (Text.Utf8.decode bytes).mapError (MemoryFault.invalidText address)

end Image

end TypeAtlas
