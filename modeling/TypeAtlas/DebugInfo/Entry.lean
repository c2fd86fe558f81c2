import TypeAtlas.Address
import TypeAtlas.Dwarf.Reading

/-!
Debug information entries, reduced to their tag, name and entry address, and why reading one may
fail.
-/

namespace TypeAtlas

set_option autoImplicit false

inductive EntryTag where
  | compileUnit
  | subprogram
  | dataObject
  | other (code : UInt16)
deriving DecidableEq, Repr

namespace EntryTag

def ofCode (code : UInt16) : EntryTag :=
  if code = 0x11 then .compileUnit
  else if code = 0x2e then .subprogram
  else if code = 0x34 then .dataObject
  else .other code

def render : EntryTag → String
  | .compileUnit => "CompileUnit"
  | .subprogram => "Subprogram"
  | .dataObject => "Variable"
  | .other code => s!"Unknown({code.toNat})"

end EntryTag

inductive AttributeName where
  | name
  | lowPc
deriving DecidableEq, Repr

inductive AttributeValue where
  | address (value : UInt64)
  | unsigned (value : UInt64)
  | text (value : String)
deriving DecidableEq, Repr

structure Entry where
  tag : EntryTag
  attributes : List (AttributeName × AttributeValue)
deriving DecidableEq, Repr

namespace Entry

def subprogram (name : String) (lowPc : Option UInt64) : Entry where
  tag := .subprogram
  attributes := (.name, .text name) :: (lowPc.map fun pc => (.lowPc, .address pc)).toList

/-- The first attribute of a name, whatever its value. -/
def attribute? (entry : Entry) (wanted : AttributeName) : Option AttributeValue :=
  (entry.attributes.find? (·.1 == wanted)).map Prod.snd

/-- A name is a text; an attribute of another sort hides any later one. -/
def name? (entry : Entry) : Option String :=
  match entry.attribute? .name with
  | some (.text given) => some given
  | _ => none

/-- The entry address. Some producers write it as a plain number. -/
def lowPc? (entry : Entry) : Option Address :=
  match entry.attribute? .lowPc with
  | some (.address value) | some (.unsigned value) => some ⟨value⟩
  | _ => none

def render (entry : Entry) : String :=
  let named := entry.tag.render ++ " " ++ entry.name?.getD "<unnamed>"
  match entry.lowPc? with
  | none => named
  | some pc => s!"{named} @ {pc}"

end Entry

/-- Why the next entry could not be had. A stream that is not read from DWARF data says so in
words of its own. -/
inductive EntryFault where
  | dwarf (fault : Dwarf.Fault)
  | unreadable (text : String)
  | malformed (text : String)
deriving DecidableEq, Repr

def EntryFault.message : EntryFault → String
  | .dwarf fault => s!"debug info read failed: {fault.message}"
  | .unreadable text => s!"debug info read failed: {text}"
  | .malformed text => s!"malformed debug info: {text}"

end TypeAtlas
