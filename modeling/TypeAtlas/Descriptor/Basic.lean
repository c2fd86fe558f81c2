import TypeAtlas.Address
import TypeAtlas.Descriptor.Kind

/-!
Runtime type descriptors. A descriptor names its parts by reference, so that a set of descriptors
is a graph, with cycles wherever a type is recursive.
-/

namespace TypeAtlas

set_option autoImplicit false

/-- How one descriptor names another. The opaque pointer has no descriptor of its own. -/
inductive TypeRef where
  | address (address : Address)
  | opaquePointer
deriving DecidableEq, Repr, Inhabited

structure StructField where
  name : String
  type : TypeRef
  offset : UInt64
  embedded : Bool
deriving DecidableEq, Repr, Inhabited

/-- A method; the linker may have dropped its signature as unreachable. -/
structure Method where
  name : String
  signature : Option TypeRef
deriving DecidableEq, Repr, Inhabited

inductive Shape where
  | primitive
  | pointer (elem : TypeRef)
  | chan (elem : TypeRef) (dir : ChanDir)
  | slice (elem : TypeRef)
  | array (elem : TypeRef) (length : UInt64)
  | map (key elem : TypeRef)
  | func (params results : List TypeRef) (variadic : Bool)
  | struct (fields : List StructField) (methods : List Method)
  | interface (methods : List Method)
deriving DecidableEq, Repr, Inhabited

/-- The references to a type's parts, in declaration order. A struct's methods are not among
them, because their signatures are seen only together with a receiver. -/
def Shape.parts : Shape → List TypeRef
  | .primitive => []
  | .pointer elem | .chan elem _ | .slice elem | .array elem _ => [elem]
  | .map key elem => [key, elem]
  | .func params results _ => params ++ results
  | .struct fields _ => fields.map StructField.type
  | .interface methods => methods.filterMap Method.signature

/-- A descriptor. `repr` is the runtime's own string for the type; `name` is present on declared
types, without the package, whose path stands apart. Made-up descriptors have no address. -/
structure RuntimeType where
  address : Option Address
  kind : Kind
  size : UInt64
  name : Option String
  pkgPath : Option String
  repr : String
  shape : Shape
deriving DecidableEq, Repr, Inhabited

namespace RuntimeType

def primitive (address : Address) (kind : Kind) (size : UInt64) : RuntimeType where
  address := some address
  kind := kind
  size := size
  name := some kind.name
  pkgPath := none
  repr := kind.name
  shape := .primitive

def opaquePointer : RuntimeType where
  address := none
  kind := .unsafePointer
  size := 8
  name := some "Pointer"
  pkgPath := none
  repr := "unsafe.Pointer"
  shape := .primitive

def opaquePointerPointer : RuntimeType where
  address := none
  kind := .pointer
  size := 8
  name := none
  pkgPath := none
  repr := "*unsafe.Pointer"
  shape := .pointer .opaquePointer

/-- The last segment of a package path, the part in front of names in the runtime's strings. -/
def packageBase (path : String) : String :=
  String.ofList (path.toList.reverse.takeWhile (· != '/')).reverse

/-- The type declared as `name` in a package. -/
def withName (type : RuntimeType) (name : String) (pkgPath : Option String) : RuntimeType :=
  let base := (pkgPath.map packageBase).getD ""
  { type with
    name := some name
    pkgPath := pkgPath
    repr := if base.isEmpty then name else base ++ "." ++ name }

def fields (type : RuntimeType) : List StructField :=
  match type.shape with
  | .struct fields _ => fields
  | _ => []

def methods (type : RuntimeType) : List Method :=
  match type.shape with
  | .struct _ methods | .interface methods => methods
  | _ => []

end RuntimeType

end TypeAtlas
