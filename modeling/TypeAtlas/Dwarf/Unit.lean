import TypeAtlas.DebugInfo.Entry
import TypeAtlas.Dwarf.Form
import TypeAtlas.Text.Utf8

/-!
Units of debug information: the headers in `.debug_info`, what a unit needs before its entries can
be read, and the entries. Everything is little endian.
-/

namespace TypeAtlas.Dwarf

set_option autoImplicit false

/-- The contents of `.debug_info`, `.debug_abbrev`, `.debug_str`, `.debug_line_str`,
`.debug_str_offsets` and `.debug_addr`. -/
structure Sections where
  info : List UInt8
  abbreviations : List UInt8
  texts : List UInt8
  lineTexts : List UInt8
  textOffsets : List UInt8
  addresses : List UInt8
deriving DecidableEq, Repr, Inhabited

structure UnitHeader where
  encoding : Encoding
  abbrevOffset : Nat
  entries : List UInt8
deriving DecidableEq, Repr

namespace UnitHeader

open Reading

/-- The length of what follows, and the format it is written in. -/
def readLength : Reading (Nat × OffsetFormat) := do
  let short ← word 4
  if short < 0xfffffff0 then return (short, .narrow)
  else if short = 0xffffffff then do
    let long ← word 8
    return (long, .wide)
  else throw .reservedLength

def readAddressSize : Reading Nat := do
  let size := (← byte).toNat
  if size = 1 ∨ size = 2 ∨ size = 4 ∨ size = 8 then return size
  else throw .addressSize

/-- What some kinds of unit hold between the header and the entries: type units a signature and
an offset, skeleton and split units an identifier. -/
def skipKindFields (offsetFormat : OffsetFormat) (unitType : UInt8) : Reading Unit :=
  if unitType = 1 ∨ unitType = 3 then return
  else if unitType = 4 ∨ unitType = 5 then skip 8
  else if unitType = 2 ∨ unitType = 6 then do
    skip 8
    skip offsetFormat.size
  else throw .unitType

/-- The fields after the length. Version 5 moved the address size forward and added the type. -/
def readFields (offsetFormat : OffsetFormat) : Reading (Encoding × Nat) := do
  let version ← word 2
  if 2 ≤ version ∧ version ≤ 4 then do
    let abbrevOffset ← word offsetFormat.size
    let addressSize ← readAddressSize
    return (⟨offsetFormat, version, addressSize⟩, abbrevOffset)
  else if version = 5 then do
    let unitType ← byte
    let addressSize ← readAddressSize
    let abbrevOffset ← word offsetFormat.size
    skipKindFields offsetFormat unitType
    return (⟨offsetFormat, version, addressSize⟩, abbrevOffset)
  else throw .unknownVersion

def read : Reading UnitHeader := do
  let (length, offsetFormat) ← readLength
  let body ← take length
  match (readFields offsetFormat).run body with
  | .error fault => throw fault
  | .ok ((encoding, abbrevOffset), entries) => return ⟨encoding, abbrevOffset, entries⟩

end UnitHeader

/-- A unit whose entries can be read: its abbreviations are known, and where its indirect strings
and addresses are found. -/
structure OpenUnit where
  encoding : Encoding
  abbreviations : List Abbreviation
  textOffsetsBase : Nat
  addrBase : Nat
  entries : List UInt8
deriving DecidableEq, Repr

namespace OpenUnit

open Reading

def nameCode : Nat := 0x03
def lineTableCode : Nat := 0x10
def lowPcCode : Nat := 0x11
def textOffsetsBaseCode : Nat := 0x72
def addrBaseCode : Nat := 0x73

/-- The attribute that compilers used for the base of addresses before there was a standard. -/
def oldAddrBaseCode : Nat := 0x2133

/-- The start of an entry: the abbreviation of its code, or none for the code zero, which stands
for no entry. -/
def readHead (abbreviations : List Abbreviation) : Reading (Option Abbreviation) := do
  let code ← unsigned64
  if code = 0 then return none
  match abbreviations.find? (·.code == code) with
  | none => throw .unknownAbbreviation
  | some abbreviation => return some abbreviation

/-- The abbreviation of the first entry. Each round takes a byte or more. -/
def readRoot (abbreviations : List Abbreviation) : Nat → Reading Abbreviation
  | 0 => throw .missingRoot
  | rounds + 1 => do
      if (← get).isEmpty then throw .missingRoot
      match ← readHead abbreviations with
      | none => readRoot abbreviations rounds
      | some abbreviation => return abbreviation

def readAttributes (encoding : Encoding) :
    List AttributeSpec → Reading (List (Nat × FormValue))
  | [] => return []
  | spec :: specs => do
      let value ← Form.readValue encoding spec.form
      let later ← readAttributes encoding specs
      return (spec.name, value) :: later

/-- The first attribute of a name. What stands after it is not read. -/
def readAttribute (encoding : Encoding) (name : Nat) :
    List AttributeSpec → Reading (Option FormValue)
  | [] => return none
  | spec :: specs => do
      let value ← Form.readValue encoding spec.form
      if spec.name = name then return some value
      else readAttribute encoding name specs

/-- The last section offset given under one of the names, or zero. -/
def baseOf (names : List Nat) (attributes : List (Nat × FormValue)) : Nat :=
  attributes.foldl
    (fun base (name, value) =>
      match value with
      | .sectionOffset offset => if names.contains name then offset else base
      | _ => base)
    0

/-- The address of an index, an address-sized word of `.debug_addr`. -/
def addressAt (sections : Sections) (unit : OpenUnit) (index : Nat) : Except Fault Nat :=
  readAt sections.addresses (unit.addrBase + index * unit.encoding.addressSize)
    (word unit.encoding.addressSize)

/-- The text of a name. One that is of another form, or leads outside the sections, is no name. -/
def nameText? (sections : Sections) (unit : OpenUnit) : FormValue → Option (List UInt8)
  | .text bytes => some bytes
  | .textAt offset => (readAt sections.texts offset text).toOption
  | .lineTextAt offset => (readAt sections.lineTexts offset text).toOption
  | .textIndex index => do
      let size := unit.encoding.offsetFormat.size
      let offset ← (readAt sections.textOffsets (unit.textOffsetsBase + index * size)
        (word size)).toOption
      (readAt sections.texts offset text).toOption
  | _ => none

/-- An entry address. An index has to lead to one; values of other forms are passed over. -/
def lowPcValue? (sections : Sections) (unit : OpenUnit) :
    FormValue → Except Fault (Option AttributeValue)
  | .address value => .ok (some (.address (UInt64.ofNat value)))
  | .addressIndex index => do
      let value ← unit.addressAt sections index
      return some (.address (UInt64.ofNat value))
  | .unsigned value => .ok (some (.unsigned (UInt64.ofNat value)))
  | _ => .ok none

/-- Reads a unit's abbreviations and all of its first entry. A table of lines that the first entry
points to is out of reach, for no section holds it; the entry address, if it is an index, has to
lead somewhere. -/
def ofHeader (sections : Sections) (header : UnitHeader) : Except Fault OpenUnit := do
  let abbreviations ← Abbreviation.tableAt sections.abbreviations header.abbrevOffset
  let readAll : Reading (List (Nat × FormValue)) := do
    let root ← readRoot abbreviations header.entries.length
    readAttributes header.encoding root.attributes
  let attributes ← readAll.run' header.entries
  if attributes.any fun (name, value) =>
      name == lineTableCode && value.isSectionOffset header.encoding.offsetFormat then
    throw .endOfData
  let unit : OpenUnit := {
    encoding := header.encoding
    abbreviations := abbreviations
    textOffsetsBase := baseOf [textOffsetsBaseCode] attributes
    addrBase := baseOf [addrBaseCode, oldAddrBaseCode] attributes
    entries := header.entries }
  match (attributes.filter (·.1 == lowPcCode)).getLast? with
  | some (_, .addressIndex index) => do
      let _ ← unit.addressAt sections index
      return unit
  | _ => return unit

/-- The entry of an abbreviation, given the bytes of its attributes. -/
def entryOf (sections : Sections) (unit : OpenUnit) (abbreviation : Abbreviation)
    (bytes : List UInt8) : Except Fault Entry := do
  let name ← (readAttribute unit.encoding nameCode abbreviation.attributes).run' bytes
  let named := (name.bind (unit.nameText? sections)).map fun bytes =>
    (AttributeName.name, AttributeValue.text (Text.Utf8.decodeLossy bytes))
  let lowPc ← (readAttribute unit.encoding lowPcCode abbreviation.attributes).run' bytes
  let placed ← match lowPc with
    | none => pure none
    | some value => unit.lowPcValue? sections value
  return {
    tag := .ofCode (UInt16.ofNat abbreviation.tag)
    attributes := named.toList ++ (placed.map fun value => (AttributeName.lowPc, value)).toList }

/-- The entries in order, and the fault that ends them early. All attributes of an entry are read
to find its end; an entry whose end is not found still counts. Each round takes a byte or more. -/
def readEntries (sections : Sections) (unit : OpenUnit) :
    Nat → List UInt8 → List Entry × Option Fault
  | 0, _ => ([], none)
  | rounds + 1, bytes =>
      if bytes.isEmpty then ([], none)
      else
        match (readHead unit.abbreviations).run bytes with
        | .error fault => ([], some fault)
        | .ok (none, rest) => readEntries sections unit rounds rest
        | .ok (some abbreviation, body) =>
            match unit.entryOf sections abbreviation body with
            | .error fault => ([], some fault)
            | .ok entry =>
                match (readAttributes unit.encoding abbreviation.attributes).run body with
                | .error fault => ([entry], some fault)
                | .ok (_, rest) =>
                    let (later, fault) := readEntries sections unit rounds rest
                    (entry :: later, fault)

end OpenUnit

/-- What comes of reading one unit. -/
inductive UnitOutcome where
  | badHeader (fault : Fault)
  | unopened (fault : Fault)
  | read (entries : List Entry) (fault : Option Fault)
deriving DecidableEq, Repr

def UnitOutcome.ofHeader (sections : Sections) (header : UnitHeader) : UnitOutcome :=
  match OpenUnit.ofHeader sections header with
  | .error fault => .unopened fault
  | .ok unit =>
      let (entries, fault) := unit.readEntries sections unit.entries.length unit.entries
      .read entries fault

/-- The units of `.debug_info`. Nothing is known of what follows a bad header. Each round takes a
byte or more. -/
def readUnits (sections : Sections) : Nat → List UInt8 → List UnitOutcome
  | 0, _ => []
  | rounds + 1, bytes =>
      if bytes.isEmpty then []
      else
        match UnitHeader.read.run bytes with
        | .error fault => [.badHeader fault]
        | .ok (header, rest) => .ofHeader sections header :: readUnits sections rounds rest

def Sections.units (sections : Sections) : List UnitOutcome :=
  readUnits sections sections.info.length sections.info

end TypeAtlas.Dwarf
