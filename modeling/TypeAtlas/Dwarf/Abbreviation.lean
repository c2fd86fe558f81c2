import TypeAtlas.Dwarf.Reading

/-!
Abbreviations: what the entries of a unit that start with a given code have in common.
-/

namespace TypeAtlas.Dwarf

set_option autoImplicit false

structure AttributeSpec where
  name : Nat
  form : Nat
deriving DecidableEq, Repr

structure Abbreviation where
  code : Nat
  tag : Nat
  attributes : List AttributeSpec
deriving DecidableEq, Repr

/-- The form whose value stands in the abbreviation itself. -/
def implicitConstCode : Nat := 0x21

namespace Abbreviation

open Reading

/-- Attribute specifications up to the pair of zeros. Each takes two bytes or more, so as many
rounds as there are bytes are enough. -/
def readAttributes : Nat → Reading (List AttributeSpec)
  | 0 => throw .endOfData
  | rounds + 1 => do
      let name ← unsigned16
      let form ← unsigned16
      if name = 0 then
        if form = 0 then return [] else throw .expectedZero
      else if form = 0 then
        throw .zeroForm
      else
        if form = implicitConstCode then signed64
        let later ← readAttributes rounds
        return ⟨name, form⟩ :: later

/-- What follows the code of an abbreviation. -/
def readBody (code : Nat) : Reading Abbreviation := do
  let tag ← unsigned16
  if tag = 0 then throw .zeroTag
  let children ← byte
  if 1 < children then throw .childrenByte
  let attributes ← readAttributes (← get).length
  return ⟨code, tag, attributes⟩

/-- A table up to a zero code or the end of the section; each round takes a byte or more. -/
def readTable : Nat → List Abbreviation → Reading (List Abbreviation)
  | 0, table => return table
  | rounds + 1, table => do
      if (← get).isEmpty then return table
      let code ← unsigned64
      if code = 0 then return table
      let abbreviation ← readBody code
      if table.any (·.code == code) then throw .repeatedAbbreviation
      readTable rounds (abbreviation :: table)

/-- The whole table at an offset into the section. -/
def tableAt (bytes : List UInt8) (offset : Nat) : Except Fault (List Abbreviation) :=
  readAt bytes offset do readTable (← get).length []

end Abbreviation

end TypeAtlas.Dwarf
