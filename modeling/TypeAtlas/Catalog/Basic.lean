import TypeAtlas.Catalog.Summary
import TypeAtlas.DebugInfo.DebugType
import TypeAtlas.DebugInfo.Locate
import TypeAtlas.Inventory.Walk
import TypeAtlas.Registry.Binder

/-!
Catalogs of runtime types. A catalog is built when it is first asked for anything, from a stream
of debug entries, a binder and a resolver. What comes of the build, be it a failure, is kept, and
no answer depends on what was asked before.
-/

namespace TypeAtlas

set_option autoImplicit false

/-- The call of the registry function: nothing is bound at the null address, nothing is called that
was not bound, and nothing is used before it has passed every check. -/
def invokeRegistry {β : Type} [CodeBinder β] (entry : Address) (binder : β) :
    Except CatalogFault TypeLinks × β :=
  if entry.isNull then (.error (.notFound .registryEntry), binder)
  else
    match CodeBinder.bind entry FuncSignature.typeLinks binder with
    | (.error fault, binder) =>
        (.error (.invocation (.refused FuncSignature.typeLinks entry fault)), binder)
    | (.ok function, binder) =>
        match function [] binder with
        | (.error fault, binder) => (.error (.invocation (.failed fault)), binder)
        | (.ok values, binder) =>
            ((TypeLinks.ofValues values).mapError CatalogFault.shapeMismatch, binder)

inductive CatalogEvent where
  | building (symbol : String)
  | located (symbol : String) (located : Located)
  | linked (sections descriptors : Nat)
  | walked (event : WalkEvent)
  | failed (fault : CatalogFault)
deriving DecidableEq, Repr

namespace CatalogEvent

def level : CatalogEvent → LogLevel
  | .building _ => .info
  | .located _ _ | .linked _ _ => .debug
  | .walked event => event.level
  | .failed _ => .warn

def message : CatalogEvent → String
  | .building symbol => s!"building type catalog from {symbol}"
  | .located symbol place => place.message symbol
  | .linked sections descriptors =>
      s!"registry returned {sections} sections, {descriptors} descriptors"
  | .walked event => event.message
  | .failed fault => s!"type catalog build failed: {fault.message}"

def line (event : CatalogEvent) : String := event.level.line event.message

end CatalogEvent

/-- The stream, the binder and the resolver are handed to a build once; `spent` tells that they
have been. -/
structure Catalog (σ β : Type) where
  config : Config
  stream : σ
  binder : β
  resolve : Resolver
  outcome : Option (Except CatalogFault Inventory)
  events : Array CatalogEvent
  spent : Bool := false

namespace Catalog

variable {σ β : Type} [EntryStream σ] [CodeBinder β]

/-- A catalog that has not been asked for anything. -/
def ofSources (config : Config) (stream : σ) (binder : β) (resolve : Resolver) : Catalog σ β :=
  ⟨config, stream, binder, resolve, none, #[], false⟩

def isBuilt (catalog : Catalog σ β) : Bool := catalog.outcome.isSome

def log (event : CatalogEvent) (catalog : Catalog σ β) : Catalog σ β :=
  { catalog with events := catalog.events.push event }

/-- The last stage of a build, which nothing can make fail. -/
def walkLinks (links : TypeLinks) (catalog : Catalog σ β) : Inventory × Catalog σ β :=
  let walk := Walk.run catalog.resolve links catalog.config
  (walk.found, { catalog with events := catalog.events ++ walk.events.map .walked })

/-- Calls the registry function that was located, and walks from the links it returns. -/
def buildFrom (entry : Address) (catalog : Catalog σ β) :
    Except CatalogFault Inventory × Catalog σ β :=
  match invokeRegistry entry catalog.binder with
  | (.error fault, binder) => (.error fault, { catalog with binder := binder })
  | (.ok links, binder) =>
      let linked := { catalog with binder := binder }.log
        (.linked links.sections.length links.descriptorCount)
      let (inventory, walked) := linked.walkLinks links
      (.ok inventory, walked)

/-- One build: each stage runs only if all before it went well. -/
def runBuild (catalog : Catalog σ β) : Except CatalogFault Inventory × Catalog σ β :=
  match catalog.config.fault? with
  | some fault => (.error (.config fault), catalog)
  | none =>
      if catalog.spent then (.error (.invocation .spent), catalog)
      else
        let symbol := catalog.config.registrySymbol
        let started := { catalog with spent := true }.log (.building symbol)
        match locate symbol started.stream with
        | (.error fault, stream) => (.error fault, { started with stream := stream })
        | (.ok located, stream) =>
            ({ started with stream := stream }.log (.located symbol located)).buildFrom
              located.address

/-- What the build came to, now or earlier. -/
def force (catalog : Catalog σ β) : Except CatalogFault Inventory × Catalog σ β :=
  match catalog.outcome with
  | some outcome => (outcome, catalog)
  | none =>
      match catalog.runBuild with
      | (.ok inventory, built) => (.ok inventory, { built with outcome := some (.ok inventory) })
      | (.error fault, built) =>
          (.error fault, { built.log (.failed fault) with outcome := some (.error fault) })

/-- A view of the inventory, or the fault that left the catalog without one. -/
def view {α : Type} (look : Inventory → Except CatalogFault α) (catalog : Catalog σ β) :
    Except CatalogFault α × Catalog σ β :=
  let (outcome, built) := catalog.force
  (outcome.bind look, built)

def build (catalog : Catalog σ β) : Except CatalogFault Unit × Catalog σ β :=
  catalog.view fun _ => .ok ()

def listTypes (catalog : Catalog σ β) : Except CatalogFault (List RuntimeType) × Catalog σ β :=
  catalog.view fun inventory => .ok inventory.listTypes

def typeNames (catalog : Catalog σ β) : Except CatalogFault (List String) × Catalog σ β :=
  catalog.view fun inventory => .ok inventory.typeNames

def failures (catalog : Catalog σ β) : Except CatalogFault (List TypeFailure) × Catalog σ β :=
  catalog.view fun inventory => .ok inventory.listFailures

def size (catalog : Catalog σ β) : Except CatalogFault Nat × Catalog σ β :=
  catalog.view fun inventory => .ok inventory.size

def summary (catalog : Catalog σ β) : Except CatalogFault CatalogSummary × Catalog σ β :=
  catalog.view fun inventory => .ok inventory.summary

/-- What was found, or the fault that says what was missed. -/
def orMissing (missing : Missing) : Option RuntimeType → Except CatalogFault RuntimeType
  | some type => .ok type
  | none => .error (.notFound missing)

def typeNamed (name : String) (catalog : Catalog σ β) :
    Except CatalogFault RuntimeType × Catalog σ β :=
  catalog.view fun inventory => orMissing (.typeNamed name) (inventory.typeNamed? name)

def typeAt (address : Address) (catalog : Catalog σ β) :
    Except CatalogFault RuntimeType × Catalog σ β :=
  catalog.view fun inventory => orMissing (.typeAt address) (inventory.typeAt? address)

def debugType (type : DebugType) (catalog : Catalog σ β) :
    Except CatalogFault RuntimeType × Catalog σ β :=
  catalog.view fun inventory => orMissing (.debugType type.key) (inventory.typeNamed? type.key)

/-- All the types or the first fault. Nothing is asked for an empty list, so it builds nothing. -/
def debugTypes : List DebugType → Catalog σ β →
    Except CatalogFault (List RuntimeType) × Catalog σ β
  | [], catalog => (.ok [], catalog)
  | type :: later, catalog =>
      match catalog.debugType type with
      | (.error fault, catalog) => (.error fault, catalog)
      | (.ok found, catalog) =>
          let (rest, catalog) := debugTypes later catalog
          (rest.map (found :: ·), catalog)

end Catalog

end TypeAtlas
