import TypeAtlas.Catalog.Basic

/-!
The questions a catalog answers, as data, so that a history of questions can be told.
-/

namespace TypeAtlas

set_option autoImplicit false

inductive Query where
  | build
  | listTypes
  | typeNames
  | typeNamed (name : String)
  | typeAt (address : Address)
  | debugType (type : DebugType)
  | debugTypes (types : List DebugType)
  | failures
  | size
  | summary

inductive Reply where
  | done
  | type (type : RuntimeType)
  | types (types : List RuntimeType)
  | names (names : List String)
  | failures (failures : List TypeFailure)
  | size (size : Nat)
  | summary (summary : CatalogSummary)
deriving DecidableEq, Repr

namespace Catalog

variable {σ β : Type} [EntryStream σ] [CodeBinder β]

def replying {α : Type} (reply : α → Reply) (answer : Except CatalogFault α × Catalog σ β) :
    Except CatalogFault Reply × Catalog σ β :=
  (answer.1.map reply, answer.2)

def ask (catalog : Catalog σ β) : Query → Except CatalogFault Reply × Catalog σ β
  | .build => replying (fun _ => .done) catalog.build
  | .listTypes => replying .types catalog.listTypes
  | .typeNames => replying .names catalog.typeNames
  | .typeNamed name => replying .type (catalog.typeNamed name)
  | .typeAt address => replying .type (catalog.typeAt address)
  | .debugType type => replying .type (catalog.debugType type)
  | .debugTypes types => replying .types (catalog.debugTypes types)
  | .failures => replying .failures catalog.failures
  | .size => replying .size catalog.size
  | .summary => replying .summary catalog.summary

end Catalog

end TypeAtlas
