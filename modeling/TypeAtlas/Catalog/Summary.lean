import TypeAtlas.Inventory.Basic

/-!
The summary of a catalog: its types and failures in the order of their names, with their numbers.
-/

namespace TypeAtlas

set_option autoImplicit false

structure TypeSummary where
  name : String
  kind : Kind
  size : UInt64
  address : Option Address
  repr : String
deriving DecidableEq, Repr

structure CatalogSummary where
  typeCount : Nat
  failureCount : Nat
  types : List TypeSummary
  failures : List TypeFailure
deriving DecidableEq, Repr

def TypeSummary.ofType (name : String) (type : RuntimeType) : TypeSummary :=
  ⟨name, type.kind, type.size, type.address, type.repr⟩

def TypeSummary.toJson (summary : TypeSummary) : Json :=
  .record [("name", .text summary.name), ("kind", summary.kind.toJson),
    ("size", .ofWord summary.size), ("address", .ofOption Address.toJson summary.address),
    ("repr", .text summary.repr)]

def Inventory.summary (inventory : Inventory) : CatalogSummary :=
  let types := inventory.types.toList.map fun (name, type) => TypeSummary.ofType name type
  let failures := inventory.listFailures
  ⟨types.length, failures.length, types, failures⟩

namespace CatalogSummary

def toJson (summary : CatalogSummary) : Json :=
  .record [("type_count", .ofNat summary.typeCount),
    ("failure_count", .ofNat summary.failureCount),
    ("types", .list (summary.types.map TypeSummary.toJson)),
    ("failures", .list (summary.failures.map TypeFailure.toJson))]

/-- The exported text. -/
def render (summary : CatalogSummary) : String := summary.toJson.indented

end CatalogSummary

end TypeAtlas
