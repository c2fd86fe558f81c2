import TypeAtlas.Config
import TypeAtlas.Json.Grammar

/-!
Settings as JSON text: a record of any of the fields, or a list of values in the order of the
fields. What is not given keeps its default. Fields of other names are passed over; a field of the
settings is given once.
-/

namespace TypeAtlas.Config

set_option autoImplicit false

inductive Field where
  | registrySymbol
  | pointerSize
  | maxNameDepth
  | logFailures
deriving DecidableEq, Repr

namespace Field

def all : List Field := [.registrySymbol, .pointerSize, .maxNameDepth, .logFailures]

def key : Field → String
  | .registrySymbol => "registry_symbol"
  | .pointerSize => "pointer_size"
  | .maxNameDepth => "max_name_depth"
  | .logFailures => "log_failures"

def ofKey? (key : String) : Option Field := all.find? (·.key == key)

end Field

open Json.Grammar

/-- The settings so far, and the fields that were given. -/
structure Draft where
  config : Config
  given : List Field

def Draft.empty : Draft := ⟨{}, []⟩

/-- Reads the value of a field that has not been given yet. -/
def Draft.readField? (draft : Draft) (field : Field) (input : List Char) :
    Option (Draft × List Char) := do
  if draft.given.contains field then none
  let given := field :: draft.given
  match field with
  | .registrySymbol => do
      let (symbol, rest) ← text? input
      return (⟨{ draft.config with registrySymbol := symbol }, given⟩, rest)
  | .pointerSize => do
      let (size, rest) ← word? input
      return (⟨{ draft.config with pointerSize := size }, given⟩, rest)
  | .maxNameDepth => do
      let (depth, rest) ← word? input
      return (⟨{ draft.config with maxNameDepth := depth }, given⟩, rest)
  | .logFailures => do
      let (chosen, rest) ← truth? input
      return (⟨{ draft.config with logFailures := chosen }, given⟩, rest)

/-- The value of a key: a field's, or one that is passed over. -/
def Draft.readMember? (draft : Draft) (key : String) (input : List Char) :
    Option (Draft × List Char) :=
  match Field.ofKey? key with
  | some field => draft.readField? field input
  | none => (skipValue? input).map fun rest => (draft, rest)

/-- The members of a record up to its end. Each takes a character or more. -/
def readMembers? : Nat → Draft → List Char → Option (Draft × List Char)
  | 0, _, _ => none
  | rounds + 1, draft, input => do
      let (key, afterKey) ← text? input
      let (read, rest) ← draft.readMember? key (← expect ':' afterKey)
      match skipBlanks rest with
      | ',' :: later => readMembers? rounds read later
      | '\x7d' :: later => some (read, later)
      | _ => none

/-- The values of a list, for as many fields as it is long. -/
def readItems? : List Field → Draft → List Char → Option (Draft × List Char)
  | [], _, _ => none
  | field :: fields, draft, input => do
      let (read, rest) ← draft.readField? field input
      match skipBlanks rest with
      | ',' :: later => readItems? fields read later
      | ']' :: later => some (read, later)
      | _ => none

/-- Settings at the front of the input. -/
def read? (input : List Char) : Option (Draft × List Char) :=
  match skipBlanks input with
  | '\x7b' :: rest =>
      match skipBlanks rest with
      | '\x7d' :: later => some (.empty, later)
      | members => readMembers? members.length .empty members
  | '[' :: rest =>
      match skipBlanks rest with
      | ']' :: later => some (.empty, later)
      | items => readItems? Field.all .empty items
  | _ => none

/-- The settings that a text gives, with nothing but blanks around them. -/
def ofText? (text : String) : Option Config := do
  let (draft, rest) ← read? text.toList
  if (skipBlanks rest).isEmpty then some draft.config else none

/-- The settings as text. -/
def toText (config : Config) : String := config.toJson.compact

end TypeAtlas.Config
