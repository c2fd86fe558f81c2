/-!
UTF-8 read one byte at a time. The bytes of a text fall into pieces: the scalar values they
encode, and the longest runs that begin like a scalar value but cannot be completed. A strict
reading refuses the first such run; a lossy reading puts U+FFFD in the place of each.
-/

namespace TypeAtlas.Text.Utf8

set_option autoImplicit false

/-- Where a text stops being UTF-8; the index counts the well formed bytes before it. -/
inductive Fault where
  | invalid (length index : Nat)
  | incomplete (index : Nat)
deriving DecidableEq, Repr

def Fault.message : Fault → String
  | .invalid length index => s!"invalid utf-8 sequence of {length} bytes from index {index}"
  | .incomplete index => s!"incomplete utf-8 byte sequence from index {index}"

inductive Piece where
  | scalar (character : Char)
  | malformed (length : Nat)
  | cutOff
deriving DecidableEq, Repr

/-- A scalar value of which the lead byte and perhaps more has been read. The next byte
completes or continues it only if it lies between `low` and `high`. -/
structure Opened where
  bits : Nat
  missing : Nat
  low : UInt8
  high : UInt8
  read : Nat
deriving DecidableEq, Repr

/-- What a lead byte opens. The narrowed ranges keep out long forms, surrogates and values
above U+10FFFF. -/
def openedBy (lead : UInt8) : Option Opened :=
  if lead < 0xC2 then none
  else if lead ≤ 0xDF then some ⟨lead.toNat % 32, 1, 0x80, 0xBF, 1⟩
  else if lead = 0xE0 then some ⟨0, 2, 0xA0, 0xBF, 1⟩
  else if lead = 0xED then some ⟨13, 2, 0x80, 0x9F, 1⟩
  else if lead ≤ 0xEF then some ⟨lead.toNat % 16, 2, 0x80, 0xBF, 1⟩
  else if lead = 0xF0 then some ⟨0, 3, 0x90, 0xBF, 1⟩
  else if lead ≤ 0xF3 then some ⟨lead.toNat % 8, 3, 0x80, 0xBF, 1⟩
  else if lead = 0xF4 then some ⟨4, 3, 0x80, 0x8F, 1⟩
  else none

/-- The pieces read so far, latest first, and the scalar value still open. -/
structure Scan where
  pieces : List Piece
  opened : Option Opened
deriving DecidableEq, Repr

namespace Scan

def empty : Scan := ⟨[], none⟩

/-- A byte that starts a piece of its own. -/
def begin (pieces : List Piece) (byte : UInt8) : Scan :=
  if byte < 0x80 then ⟨.scalar (Char.ofNat byte.toNat) :: pieces, none⟩
  else match openedBy byte with
    | some opened => ⟨pieces, some opened⟩
    | none => ⟨.malformed 1 :: pieces, none⟩

/-- The next byte. One that does not continue the open value ends it as malformed and starts a
piece of its own. -/
def step (scan : Scan) (byte : UInt8) : Scan :=
  match scan.opened with
  | none => begin scan.pieces byte
  | some opened =>
      if opened.low ≤ byte ∧ byte ≤ opened.high then
        let bits := opened.bits * 64 + byte.toNat % 64
        if opened.missing ≤ 1 then ⟨.scalar (Char.ofNat bits) :: scan.pieces, none⟩
        else ⟨scan.pieces, some ⟨bits, opened.missing - 1, 0x80, 0xBF, opened.read + 1⟩⟩
      else begin (.malformed opened.read :: scan.pieces) byte

def finish (scan : Scan) : List Piece :=
  match scan.opened with
  | none => scan.pieces.reverse
  | some _ => (.cutOff :: scan.pieces).reverse

end Scan

def pieces (bytes : List UInt8) : List Piece := (bytes.foldl Scan.step Scan.empty).finish

/-- The first piece that is no scalar value, `index` bytes into the text. -/
def firstFault : Nat → List Piece → Option Fault
  | _, [] => none
  | index, .scalar character :: later => firstFault (index + character.utf8Size) later
  | index, .malformed length :: _ => some (.invalid length index)
  | index, .cutOff :: _ => some (.incomplete index)

/-- A piece in a lossy reading. -/
def Piece.character : Piece → Char
  | .scalar character => character
  | .malformed _ | .cutOff => '\uFFFD'

def decodeLossy (bytes : List UInt8) : String :=
  String.ofList ((pieces bytes).map Piece.character)

def decode (bytes : List UInt8) : Except Fault String :=
  let read := pieces bytes
  match firstFault 0 read with
  | some fault => .error fault
  | none => .ok (String.ofList (read.map Piece.character))

end TypeAtlas.Text.Utf8
