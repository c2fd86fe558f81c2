import TypeAtlas.Descriptor.Basic

/-!
How a type's name is put together from the names of its parts. A declared type spells itself; the
others follow the notation of the language, with one constructor for each form it has. What stands
for a part is left open: references before the parts are named, and names afterwards.
-/

namespace TypeAtlas

set_option autoImplicit false

inductive Spelling (α : Type) where
  | verbatim (text : String)
  | pointer (elem : α)
  | slice (elem : α)
  | array (length : UInt64) (elem : α)
  | chan (dir : ChanDir) (elem : α)
  | map (key elem : α)
  | func (params results : List α) (variadic : Bool)
  | struct (fields : List (String × α))
deriving DecidableEq, Repr

namespace Spelling

/-- Names the parts from left to right. -/
@[specialize]
def mapM {m : Type → Type} [Monad m] {α β : Type} (name : α → m β) : Spelling α → m (Spelling β)
  | .verbatim text => return .verbatim text
  | .pointer elem => return .pointer (← name elem)
  | .slice elem => return .slice (← name elem)
  | .array length elem => return .array length (← name elem)
  | .chan dir elem => return .chan dir (← name elem)
  | .map key elem => do
      let keyName ← name key
      let elemName ← name elem
      return .map keyName elemName
  | .func params results variadic => do
      let paramNames ← params.mapM name
      let resultNames ← results.mapM name
      return .func paramNames resultNames variadic
  | .struct fields => do
      let named ← fields.mapM fun (field, part) => do return (field, ← name part)
      return .struct named

/-- A slice as the last parameter of a variadic function; anything else is left alone. -/
def spread (name : String) : String :=
  match name.toList with
  | '[' :: ']' :: elem => "..." ++ String.ofList elem
  | _ => name

def spreadLast (names : List String) : List String :=
  match names.getLast? with
  | none => names
  | some last => names.dropLast ++ [spread last]

def renderChan : ChanDir → String → String
  | .recv, elem => "<-chan " ++ elem
  | .send, elem => "chan<- " ++ elem
  | .both, elem => "chan " ++ elem

/-- Results need parentheses when there are several and vanish when there are none. -/
def renderResults : List String → String
  | [] => ""
  | [result] => " " ++ result
  | results => " (" ++ String.intercalate ", " results ++ ")"

def render : Spelling String → String
  | .verbatim text => text
  | .pointer elem => "*" ++ elem
  | .slice elem => "[]" ++ elem
  | .array length elem => "[" ++ toString length.toNat ++ "]" ++ elem
  | .chan dir elem => renderChan dir elem
  | .map key elem => "map[" ++ key ++ "]" ++ elem
  | .func params results variadic =>
      let spelled := if variadic then spreadLast params else params
      "func(" ++ String.intercalate ", " spelled ++ ")" ++ renderResults results
  | .struct fields =>
      "struct \x7b" ++ String.intercalate "; " (fields.map fun (field, part) => field ++ " " ++ part)
        ++ "\x7d"

end Spelling

/-- The name of the opaque pointer, which no descriptor declares. -/
def opaquePointerName : String := "*void"

/-- The name of a pointer to the opaque pointer. -/
def opaquePointerPointerName : String := "**void"

namespace RuntimeType

/-- A declared type is qualified by its package path; without one the runtime's string already is
its full name. -/
def declaredName (type : RuntimeType) (name : String) : String :=
  let path := type.pkgPath.getD ""
  if !path.isEmpty then path ++ "." ++ name
  else if !type.repr.isEmpty then type.repr
  else name

def structuralSpelling (type : RuntimeType) : Spelling TypeRef :=
  match type.shape with
  | .primitive => .verbatim (if type.repr.isEmpty then type.kind.name else type.repr)
  | .pointer elem => .pointer elem
  | .chan elem dir => .chan dir elem
  | .slice elem => .slice elem
  | .array elem length => .array length elem
  | .map key elem => .map key elem
  | .func params results variadic => .func params results variadic
  | .struct fields _ => .struct (fields.map fun field => (field.name, field.type))
  | .interface _ => .verbatim type.repr

/-- An empty declared name counts as none. -/
def spelling (type : RuntimeType) : Spelling TypeRef :=
  match type.name with
  | none => type.structuralSpelling
  | some name =>
      if name.isEmpty then type.structuralSpelling else .verbatim (type.declaredName name)

end RuntimeType

end TypeAtlas
