/-!
Reading DWARF data from the front of a list of bytes, least significant byte first: words, numbers
in groups of seven bits, and strings that end in a zero byte.
-/

namespace TypeAtlas.Dwarf

set_option autoImplicit false

inductive Fault where
  | endOfData
  | reservedLength
  | unknownVersion
  | addressSize
  | unitType
  | missingRoot
  | unknownAbbreviation
  | repeatedAbbreviation
  | zeroTag
  | zeroForm
  | expectedZero
  | childrenByte
  | unsignedNumber
  | signedNumber
  | unknownForm
  | misplacedConstant
deriving DecidableEq, Repr

/-- The continuation of a message on a line of its own. -/
def Fault.indented (first second : String) : String :=
  first ++ "\n                 " ++ second

def Fault.message : Fault → String
  | .endOfData => "Hit the end of input before it was expected"
  | .reservedLength => "Found an unknown reserved length value"
  | .unknownVersion => "Found an unknown DWARF version"
  | .addressSize => "The specified address size is not supported"
  | .unitType => "The \x60DW_UT_*\x60 value for this unit is not supported yet"
  | .missingRoot => "A compilation unit or type unit is missing its top level DIE."
  | .unknownAbbreviation => "Found a record with an unknown abbreviation code"
  | .repeatedAbbreviation => "Found an abbreviation code that has already been used"
  | .zeroTag =>
      indented "An abbreviation declared that its tag is zero,"
        "but zero is reserved for null records"
  | .zeroForm =>
      indented "An attribute specification declared that its form is zero,"
        "but zero is reserved for null records"
  | .expectedZero => "Expected a zero, found something else"
  | .childrenByte =>
      indented "The abbreviation's has-children byte was not one of"
        "\x60DW_CHILDREN_\x7byes,no\x7d\x60"
  | .unsignedNumber => "An error parsing an unsigned LEB128 value"
  | .signedNumber => "An error parsing a signed LEB128 value"
  | .unknownForm => "Found an unknown \x60DW_FORM_*\x60 type"
  | .misplacedConstant => "DW_FORM_implicit_const used in an invalid context."

/-- Takes a value off the front of the bytes. -/
abbrev Reading := StateT (List UInt8) (Except Fault)

namespace Reading

def byte : Reading UInt8 := do
  match ← get with
  | [] => throw .endOfData
  | first :: rest => do
      set rest
      return first

def take (count : Nat) : Reading (List UInt8) := do
  let bytes ← get
  if count ≤ bytes.length then do
    set (bytes.drop count)
    return bytes.take count
  else throw .endOfData

def skip (count : Nat) : Reading Unit := do
  let _ ← take count

def wordValue : List UInt8 → Nat
  | [] => 0
  | first :: higher => first.toNat + 256 * wordValue higher

/-- A word of `width` bytes. -/
def word (width : Nat) : Reading Nat := do return wordValue (← take width)

/-- A number of at most `groups` groups, the last of which is at most `lastMax`. -/
def unsigned (lastMax : UInt8) : Nat → Reading Nat
  | 0 => throw .unsignedNumber
  | groups + 1 => do
      let first ← byte
      if groups = 0 ∧ lastMax < first then
        throw .unsignedNumber
      else if first < 0x80 ∨ groups = 0 then
        return first.toNat
      else
        let higher ← unsigned lastMax groups
        return first.toNat % 128 + 128 * higher

/-- A number of 64 bits. -/
def unsigned64 : Reading Nat := unsigned 1 10

/-- A number of 16 bits, as tags, attribute names and forms are. -/
def unsigned16 : Reading Nat := unsigned 3 3

/-- A signed number that has to fit 64 bits: its tenth group is all sign. Its value is not kept. -/
def checkSigned : Nat → Reading Unit
  | 0 => throw .signedNumber
  | groups + 1 => do
      let first ← byte
      if groups = 0 ∧ first ≠ 0x00 ∧ first ≠ 0x7f then
        throw .signedNumber
      else if 0x80 ≤ first then
        checkSigned groups

def signed64 : Reading Unit := checkSigned 10

/-- The bytes before the first zero byte, and those after it. -/
def splitAtZero (bytes : List UInt8) : Option (List UInt8 × List UInt8) :=
  match bytes.dropWhile (· ≠ 0) with
  | [] => none
  | _ :: rest => some (bytes.takeWhile (· ≠ 0), rest)

def text : Reading (List UInt8) := do
  match splitAtZero (← get) with
  | none => throw .endOfData
  | some (before, rest) => do
      set rest
      return before

/-- Reads from a place in a section, whatever else it holds. -/
def readAt {α : Type} (bytes : List UInt8) (offset : Nat) (reading : Reading α) : Except Fault α :=
  ((do skip offset; reading) : Reading α).run' bytes

end Reading

end TypeAtlas.Dwarf
