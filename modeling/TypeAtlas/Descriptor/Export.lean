import TypeAtlas.Descriptor.Basic
import TypeAtlas.Descriptor.Fault
import TypeAtlas.Json

/-!
Descriptors and failures as JSON. A shape is a record whose first field says which shape it is.
-/

namespace TypeAtlas

set_option autoImplicit false

def Address.toJson (address : Address) : Json := .ofWord address.val

def Kind.toJson (kind : Kind) : Json := .text kind.word

def ChanDir.toJson (dir : ChanDir) : Json := .text dir.word

def TypeRef.toJson : TypeRef → Json
  | .address target => .record [("Address", target.toJson)]
  | .opaquePointer => .text "OpaquePointer"

def StructField.toJson (field : StructField) : Json :=
  .record [("name", .text field.name), ("ty", field.type.toJson),
    ("offset", .ofWord field.offset), ("embedded", .bool field.embedded)]

def Method.toJson (method : Method) : Json :=
  .record [("name", .text method.name), ("signature", .ofOption TypeRef.toJson method.signature)]

def Shape.word : Shape → String
  | .primitive => "primitive"
  | .pointer _ => "pointer"
  | .chan _ _ => "chan"
  | .slice _ => "slice"
  | .array _ _ => "array"
  | .map _ _ => "map"
  | .func _ _ _ => "func"
  | .struct _ _ => "struct"
  | .interface _ => "interface"

def Shape.fieldsJson : Shape → List (String × Json)
  | .primitive => []
  | .pointer elem | .slice elem => [("elem", elem.toJson)]
  | .chan elem dir => [("elem", elem.toJson), ("dir", dir.toJson)]
  | .array elem length => [("elem", elem.toJson), ("len", .ofWord length)]
  | .map key elem => [("key", key.toJson), ("elem", elem.toJson)]
  | .func params results variadic =>
      [("params", .list (params.map TypeRef.toJson)),
        ("results", .list (results.map TypeRef.toJson)), ("variadic", .bool variadic)]
  | .struct fields methods =>
      [("fields", .list (fields.map StructField.toJson)),
        ("methods", .list (methods.map Method.toJson))]
  | .interface methods => [("methods", .list (methods.map Method.toJson))]

def Shape.toJson (shape : Shape) : Json :=
  .record (("shape", .text shape.word) :: shape.fieldsJson)

def RuntimeType.toJson (type : RuntimeType) : Json :=
  .record [("address", .ofOption Address.toJson type.address), ("kind", type.kind.toJson),
    ("size", .ofWord type.size), ("name", .ofOption .text type.name),
    ("pkg_path", .ofOption .text type.pkgPath), ("repr", .text type.repr),
    ("shape", type.shape.toJson)]

def TypeFailure.toJson (failure : TypeFailure) : Json :=
  .record [("name", .text failure.name), ("address", .ofOption Address.toJson failure.address),
    ("repr", .text failure.repr), ("reason", .text failure.reason.message)]

end TypeAtlas
