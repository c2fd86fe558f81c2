import TypeAtlas.Address

/-!
Shapes of the values that cross into the running program, and signatures made of them.
-/

namespace TypeAtlas

set_option autoImplicit false

inductive ValueShape where
  | opaquePointer
  | uint32
  | uint64
  | sequence (elem : ValueShape)
deriving DecidableEq, Repr, Inhabited

def ValueShape.render : ValueShape → String
  | .opaquePointer => "unsafe.Pointer"
  | .uint32 => "uint32"
  | .uint64 => "uint64"
  | .sequence elem => "[]" ++ elem.render

structure FuncSignature where
  params : List ValueShape
  results : List ValueShape
deriving DecidableEq, Repr, Inhabited

namespace FuncSignature

/-- One base address per types section. -/
def sectionsShape : ValueShape := .sequence .opaquePointer

/-- One table of descriptor offsets per types section. -/
def offsetsShape : ValueShape := .sequence (.sequence .uint32)

/-- The registry function takes nothing and gives both. -/
def typeLinks : FuncSignature := ⟨[], [sectionsShape, offsetsShape]⟩

def renderShapes (shapes : List ValueShape) : String :=
  String.intercalate ", " (shapes.map ValueShape.render)

def render (signature : FuncSignature) : String :=
  "func(" ++ renderShapes signature.params ++ ")" ++
    match signature.results with
    | [] => ""
    | [result] => " " ++ result.render
    | results => " (" ++ renderShapes results ++ ")"

end FuncSignature

end TypeAtlas
