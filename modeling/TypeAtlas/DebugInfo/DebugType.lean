/-!
Types as debug information describes them, the spelling that debug information gives them, and
the key that looks the same type up in a catalog. The spellings differ in one thing: debug
information writes the kind in front of a declared struct's name, also behind a pointer.
-/

namespace TypeAtlas

set_option autoImplicit false

/-- The kind of a `struct` is the keyword in its spelling. A struct without a name is anonymous.
Anything that has no constructor of its own is carried as its spelling. -/
inductive DebugType where
  | void
  | base (name : String)
  | typedef (name : String) (type : DebugType)
  | pointer (target : DebugType)
  | struct (kind name : String) (fields : List (String × DebugType)) (incomplete : Bool)
  | array (elem : DebugType) (count : Int)
  | func (params : List DebugType) (result : Option DebugType)
  | other (spelling : String)
deriving Repr, Inhabited

namespace DebugType

/-- The definition of a struct from the spellings of its fields; an incomplete one shows none. -/
def structDefinition (kind name : String) (fields : List String) (incomplete : Bool) : String :=
  let head := if name.isEmpty then kind else kind ++ " " ++ name
  if incomplete then head ++ " /*incomplete*/"
  else head ++ " \x7b" ++ String.intercalate "; " fields ++ "\x7d"

mutual

def render : DebugType → String
  | .void => "void"
  | .base name => name
  | .typedef name _ => name
  | .pointer target => "*" ++ target.render
  | .struct kind name fields incomplete =>
      if name.isEmpty then structDefinition kind name (renderFields fields) incomplete
      else kind ++ " " ++ name
  | .array elem count => "[" ++ toString count ++ "]" ++ elem.render
  | .func params result =>
      "func(" ++ String.intercalate ", " (renderAll params) ++ ")" ++ renderResult result
  | .other spelling => spelling

def renderAll : List DebugType → List String
  | [] => []
  | type :: later => type.render :: renderAll later

def renderFields : List (String × DebugType) → List String
  | [] => []
  | (name, type) :: later => (name ++ " " ++ type.render) :: renderFields later

def renderResult : Option DebugType → String
  | none => ""
  | some type => " " ++ type.render

end

/-- The definition of a struct; other types have none. -/
def definition? : DebugType → Option String
  | .struct kind name fields incomplete =>
      some (structDefinition kind name (renderFields fields) incomplete)
  | _ => none

/-- The name that a type is known by, before its keyword is dropped. -/
def knownAs : DebugType → String
  | .struct kind name fields incomplete =>
      if name.isEmpty then structDefinition kind name (renderFields fields) incomplete else name
  | type => type.render

/-- How the spelling of a pointer to a struct begins. -/
def structPointer : List Char := "*struct ".toList

/-- A pointer to a declared struct without the keyword. A brace after the keyword starts a
definition, which keeps it. -/
def dropKeyword (name : String) : String :=
  let rest := name.toList.drop structPointer.length
  if structPointer.isPrefixOf name.toList && rest.head? != some '\x7b' then
    "*" ++ String.ofList rest
  else name

/-- The canonical name under which a catalog lists the type. -/
def key (type : DebugType) : String := dropKeyword type.knownAs

end DebugType

end TypeAtlas
