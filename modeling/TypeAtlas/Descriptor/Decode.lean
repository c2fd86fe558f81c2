import TypeAtlas.Descriptor.EncodedName
import TypeAtlas.Descriptor.Resolver

/-!
Descriptors as they lie in the image of a 64-bit program. Each starts with a header of 48 bytes:

    0 size      20 flags      23 kind (low five bits)      40 offset of the runtime string

A tail follows whose length depends on the kind, and then, if the flags say so, a block of 16
bytes with the package path and the method table of a declared type. Offsets of names and of
method types are relative to the section that holds the descriptor; all other references are
addresses.
-/

namespace TypeAtlas

set_option autoImplicit false

/-- The one length that differs between releases of the runtime: where a map's descriptor ends. -/
structure DescriptorLayout where
  mapSize : UInt64
deriving DecidableEq, Repr

namespace DescriptorLayout

/-- Maps made of buckets. -/
def buckets : DescriptorLayout := ⟨88⟩

/-- Maps made of groups. -/
def groups : DescriptorLayout := ⟨112⟩

def headerSize : UInt64 := 48

/-- Where the descriptor of a kind ends, its tail included. -/
def sizeOf (layout : DescriptorLayout) : Kind → UInt64
  | .array => 72
  | .chan => 64
  | .func | .pointer | .slice => 56
  | .interface | .struct => 80
  | .map => layout.mapSize
  | _ => headerSize

end DescriptorLayout

namespace RuntimeType

/-- What the header says about the rest of the descriptor. -/
structure Flags where
  uncommon : Bool
  extraStar : Bool
  named : Bool
deriving DecidableEq, Repr

def Flags.ofByte (byte : UInt8) : Flags where
  uncommon := byte.toNat.testBit 0
  extraStar := byte.toNat.testBit 1
  named := byte.toNat.testBit 2

/-- The block after the tail of a declared type. -/
structure Uncommon where
  pkgPath : Option String
  methodCount : UInt16
  exportedCount : UInt16
  methodsOffset : UInt32
deriving DecidableEq, Repr

/-- The text without one star in front, which the runtime shares with the pointer's string. -/
def dropStar (text : String) : String :=
  match text.toList with
  | '*' :: rest => String.ofList rest
  | _ => text

/-- What follows the last dot outside of brackets, given a text from its end: `reversed` is still
to be read, `kept` has been, and `depth` is the number of brackets closed but not yet opened. The
depth is a word of 32 bits, so that 2 ^ 32 open brackets count as none. -/
def afterLastDot (depth : Int32) : List Char → List Char → List Char
  | [], kept => kept
  | character :: reversed, kept =>
      if character = ']' then afterLastDot (depth + 1) reversed (character :: kept)
      else if character = '[' then afterLastDot (depth - 1) reversed (character :: kept)
      else if character = '.' ∧ depth = 0 then kept
      else afterLastDot depth reversed (character :: kept)

/-- The declared name within a runtime string: without its package, with its type arguments. -/
def shortName (text : String) : String :=
  String.ofList (afterLastDot 0 text.toList.reverse [])

/-- More elements than these are taken for a corrupt count. -/
def maxElements : UInt64 := 65536

section Parts

variable (image : Image)

def readWord (address : Address) : Except DescriptorFault UInt64 :=
  (image.readUInt64 address).mapError .memory

def readPointer (address : Address) : Except DescriptorFault Address :=
  (image.readAddress address).mapError .memory

def readHalf (address : Address) : Except DescriptorFault UInt16 :=
  (image.readUInt16 address).mapError .memory

def readByte (address : Address) : Except DescriptorFault UInt8 :=
  (image.readUInt8 address).mapError .memory

/-- A signed offset, as relative references are stored. -/
def readOffset (address : Address) : Except DescriptorFault Int32 :=
  (image.readInt32 address).mapError .memory

/-- A reference that has to lead somewhere. -/
def readRef (address : Address) (referent : Referent) : Except DescriptorFault TypeRef := do
  let target ← readPointer image address
  if target.isNull then
    throw (.nullReference address referent)
  return .address target

def readCount (address : Address) : Except DescriptorFault Nat := do
  let count ← readWord image address
  if maxElements < count then
    throw (.layout address (.elementCount count))
  return count.toNat

/-- The rows of a table, `stride` bytes apart. -/
def readRows {α : Type} (readRow : Address → Except DescriptorFault α) (stride count : Nat)
    (table : Address) : Except DescriptorFault (List α) :=
  (List.range count).mapM fun index => readRow (table + UInt64.ofNat (stride * index))

/-- A name at an offset into the section. -/
def readNameAt (sectionBase : Address) (offset : Int32) : Except DescriptorFault EncodedName :=
  EncodedName.read image (sectionBase.offset offset.toInt64)

/-- A method's type. The linker writes zero or minus one for a type it dropped. -/
def signatureAt (sectionBase : Address) (offset : Int32) : Option TypeRef :=
  if offset = 0 ∨ offset = -1 then none
  else some (.address (sectionBase.offset offset.toInt64))

def readUncommon (sectionBase block : Address) : Except DescriptorFault Uncommon := do
  let pathOffset ← readOffset image block
  let pkgPath ←
    if pathOffset = 0 then pure none
    else do
      let path ← readNameAt image sectionBase pathOffset
      pure (if path.text.isEmpty then none else some path.text)
  let methodCount ← readHalf image (block + 4)
  let exportedCount ← readHalf image (block + 6)
  let methodsOffset ← (image.readUInt32 (block + 8)).mapError .memory
  return ⟨pkgPath, methodCount, exportedCount, methodsOffset⟩

/-- A method row starts with the offsets of its name and of its type, whatever follows. -/
def readMethod (sectionBase row : Address) : Except DescriptorFault Method := do
  let nameOffset ← readOffset image row
  let typeOffset ← readOffset image (row + 4)
  let name ← readNameAt image sectionBase nameOffset
  return ⟨name.text, signatureAt sectionBase typeOffset⟩

/-- The exported methods of a declared type, which come first in its table. -/
def readMethods (sectionBase block : Address) (uncommon : Uncommon) :
    Except DescriptorFault (List Method) := do
  if uncommon.methodCount < uncommon.exportedCount then
    throw (.layout block (.exportedMethods uncommon.exportedCount uncommon.methodCount))
  readRows (readMethod image sectionBase) 16 uncommon.exportedCount.toNat
    (block + uncommon.methodsOffset.toUInt64)

def readField (row : Address) : Except DescriptorFault StructField := do
  let nameAddress ← readPointer image row
  let name ← EncodedName.read image nameAddress
  let type ← readRef image (row + 8) .field
  let offset ← readWord image (row + 16)
  return ⟨name.text, type, offset, name.flags.embedded⟩

/-- The table that a struct or interface descriptor refers to. -/
def readTable {α : Type} (readRow : Address → Except DescriptorFault α) (stride : Nat)
    (descriptor : Address) (referent : Referent) : Except DescriptorFault (List α) := do
  let table ← readPointer image (descriptor + 56)
  let count ← readCount image (descriptor + 64)
  if 0 < count ∧ table.isNull then
    throw (.nullReference descriptor referent)
  readRows readRow stride count table

/-- Parameters and results lie after the tail, and after the block of a declared type. -/
def readFunc (layout : DescriptorLayout) (descriptor : Address) (hasBlock : Bool) :
    Except DescriptorFault Shape := do
  let parameterCount ← readHalf image (descriptor + 48)
  let resultWord ← readHalf image (descriptor + 50)
  let start := descriptor + layout.sizeOf .func + (if hasBlock then 16 else 0)
  let params ← readRows (fun row => readRef image row .parameter) 8 parameterCount.toNat start
  let results ← readRows (fun row => readRef image row .result) 8 (resultWord.toNat % 32768)
    (start + UInt64.ofNat (8 * parameterCount.toNat))
  return .func params results (resultWord.toNat.testBit 15)

def readShape (layout : DescriptorLayout) (sectionBase descriptor : Address) (kind : Kind)
    (uncommon : Option Uncommon) : Except DescriptorFault Shape :=
  match kind with
  | .pointer => do
      let elem ← readRef image (descriptor + 48) .element
      return .pointer elem
  | .slice => do
      let elem ← readRef image (descriptor + 48) .element
      return .slice elem
  | .array => do
      let elem ← readRef image (descriptor + 48) .element
      let length ← readWord image (descriptor + 64)
      return .array elem length
  | .chan => do
      let bits ← readWord image (descriptor + 56)
      match ChanDir.ofBits? bits with
      | none => throw (.layout descriptor (.channelDirection bits))
      | some dir =>
          let elem ← readRef image (descriptor + 48) .element
          return .chan elem dir
  | .map => do
      let key ← readRef image (descriptor + 48) .key
      let elem ← readRef image (descriptor + 56) .element
      return .map key elem
  | .func => readFunc image layout descriptor uncommon.isSome
  | .struct => do
      let fields ← readTable image (readField image) 24 descriptor .fieldArray
      match uncommon with
      | none => return .struct fields []
      | some block =>
          let methods ← readMethods image sectionBase (descriptor + layout.sizeOf .struct) block
          return .struct fields methods
  | .interface => do
      let methods ← readTable image (readMethod image sectionBase) 8 descriptor .methodArray
      return .interface methods
  | _ => return .primitive

end Parts

/-- The descriptor at an address of the section that starts at `sectionBase`. -/
def decode (image : Image) (layout : DescriptorLayout) (sectionBase address : Address) :
    Except DescriptorFault RuntimeType := do
  if address.isNull then
    throw (.nullReference address .descriptor)
  if !address.isAligned 8 then
    throw (.layout address .misaligned)
  let size ← readWord image address
  let flags := Flags.ofByte (← readByte image (address + 20))
  let kindByte ← readByte image (address + 23)
  let code := kindByte % 32
  match Kind.ofCode? code.toNat with
  | none => throw (.unknownKind address code)
  | some kind =>
      let textOffset ← readOffset image (address + 40)
      let text ← readNameAt image sectionBase textOffset
      let repr := if flags.extraStar then dropStar text.text else text.text
      let uncommon ←
        if flags.uncommon then
          some <$> readUncommon image sectionBase (address + layout.sizeOf kind)
        else pure none
      let shape ← readShape image layout sectionBase address kind uncommon
      return {
        address := some address
        kind := kind
        size := size
        name := if flags.named then some (shortName repr) else none
        pkgPath := uncommon.bind (·.pkgPath)
        repr := repr
        shape := shape }

end RuntimeType

/-- Reads descriptors straight out of an image. -/
def Resolver.ofImage (image : Image) (layout : DescriptorLayout) : Resolver :=
  fun sections address =>
    match owningSection sections address with
    | none => .error (.layout address .outsideSections)
    | some sectionBase => RuntimeType.decode image layout sectionBase address

end TypeAtlas
