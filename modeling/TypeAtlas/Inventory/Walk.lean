import TypeAtlas.Config
import TypeAtlas.Descriptor.Resolver
import TypeAtlas.Inventory.Basic
import TypeAtlas.Naming.Namer
import TypeAtlas.Registry.Value

/-!
The walk from the registry's descriptors to everything they refer to. A type is listed before its
parts are visited, so a cycle ends at the type it started from. What goes wrong below a type is
recorded against that type and does not stop the visit of its other parts; only a type that cannot
itself be read or named hands its failure up.
-/

namespace TypeAtlas

set_option autoImplicit false

/-- How much an event matters to whoever reads the log. -/
inductive LogLevel where
  | debug
  | info
  | warn
deriving DecidableEq, Repr

def LogLevel.word : LogLevel → String
  | .debug => "DEBUG"
  | .info => "INFO"
  | .warn => "WARN"

def LogLevel.line (level : LogLevel) (message : String) : String := level.word ++ " " ++ message

inductive WalkEvent where
  | sectionFound (index : Nat) (base : Address) (descriptors : Nat)
  | failed (failure : TypeFailure)
  | finished (types descriptors failures : Nat)
deriving DecidableEq, Repr

def WalkEvent.level : WalkEvent → LogLevel
  | .sectionFound _ _ _ => .debug
  | .failed _ => .warn
  | .finished _ _ _ => .info

def WalkEvent.message : WalkEvent → String
  | .sectionFound index base descriptors => s!"section {index} at {base}: {descriptors} descriptors"
  | .failed failure => failure.message
  | .finished types descriptors failures =>
      s!"registered {types} types from {descriptors} descriptors ({failures} failures)"

def WalkEvent.line (event : WalkEvent) : String := event.level.line event.message

/-- A walk under way. -/
structure Walk where
  found : Inventory
  names : NameCache
  events : Array WalkEvent

namespace Walk

def start : Walk := ⟨.empty, .empty, #[]⟩

/-- What a walk goes by. -/
structure Plan where
  describe : Address → Except DescriptorFault RuntimeType
  maxNameDepth : Nat
  logFailures : Bool

/-- The answer of a visit: why it failed, if it did, and the walk so far in either case. -/
abbrev Visit := Option DescriptorFault × Walk

def nameType (plan : Plan) (type : RuntimeType) (walk : Walk) :
    Except DescriptorFault String × Walk :=
  let (named, names) := (Naming.nameOf plan.describe plan.maxNameDepth type).run walk.names
  (named, { walk with names := names })

def log (event : WalkEvent) (walk : Walk) : Walk :=
  { walk with events := walk.events.push event }

/-- Every failure is logged, also one whose name already has a record. -/
def recordFailure (plan : Plan) (failure : TypeFailure) (walk : Walk) : Walk :=
  let recorded := { walk with found := walk.found.recordFailure failure }
  if plan.logFailures then recorded.log (.failed failure) else recorded

def listType (name : String) (type : RuntimeType) (walk : Walk) : Walk :=
  { walk with found := walk.found.insertType name type }

def listAddress (address : Address) (name : String) (walk : Walk) : Walk :=
  { walk with found := walk.found.insertAddress address name }

/-- Visits every item, whatever fails, and keeps the first failure. -/
def visitEach {α : Type} (visit : α → Walk → Visit) (items : List α) (before : Visit) : Visit :=
  items.foldl
    (fun sofar item =>
      let (failure, walk) := visit item sofar.2
      (sofar.1.or failure, walk))
    before

def visitParts (visitRef : TypeRef → Walk → Visit) (type : RuntimeType) (walk : Walk) : Visit :=
  visitEach visitRef type.shape.parts (none, walk)

/-- A method as it is called on `owner`: the stored signature with the receiver in front. -/
def methodType (owner : Address) (stored : RuntimeType) (params results : List TypeRef)
    (variadic : Bool) : RuntimeType where
  address := none
  kind := .func
  size := stored.size
  name := none
  pkgPath := none
  repr := ""
  shape := .func (.address owner :: params) results variadic

/-- Lists a method's type, unless its name is taken, and visits its parts. A method's failures
are its owner's. -/
def visitMethod (plan : Plan) (visitRef : TypeRef → Walk → Visit) (owner : Address)
    (signature : TypeRef) (walk : Walk) : Visit :=
  match signature with
  | .opaquePointer => (none, walk)
  | .address target =>
      match plan.describe target with
      | .error reason => (some reason, walk)
      | .ok stored =>
          match stored.shape with
          | .func params results variadic =>
              let method := methodType owner stored params results variadic
              match nameType plan method walk with
              | (.error reason, walk) => (some reason, walk)
              | (.ok name, walk) =>
                  if walk.found.types.contains name then (none, walk)
                  else
                    let listed := { method with repr := name }
                    visitParts visitRef listed (walk.listType name listed)
          | _ => (some (.layout target (.methodKind stored.kind)), walk)

/-- The signatures of a struct's methods, with the address that methods are called on. -/
def receivers (type : RuntimeType) : List (Address × TypeRef) :=
  match type.shape, type.address with
  | .struct _ methods, some owner =>
      (methods.filterMap Method.signature).map fun signature => (owner, signature)
  | _, _ => []

/-- Visits what a type refers to, its methods last. -/
def visitBelow (plan : Plan) (visitRef : TypeRef → Walk → Visit) (type : RuntimeType)
    (walk : Walk) : Visit :=
  visitEach (fun (owner, signature) => visitMethod plan visitRef owner signature)
    (receivers type) (visitParts visitRef type walk)

/-- Lists what a reference leads to and all that lies below. Every nested visit that gets past
the table of addresses has put one more address into it, so a budget of as many visits as there
are addresses outside the table is never spent. -/
def visitRef (plan : Plan) : Nat → TypeRef → Walk → Visit
  | 0, _, walk => (none, walk)
  | _ + 1, .opaquePointer, walk => (none, walk)
  | budget + 1, .address target, walk =>
      if walk.found.byAddress.contains target then (none, walk)
      else
        match plan.describe target with
        | .error reason => (some reason, walk)
        | .ok type =>
            match nameType plan type walk with
            | (.error reason, walk) => (some reason, walk)
            | (.ok name, walk) =>
                let reached := walk.listAddress target name
                if reached.found.types.contains name then (none, reached)
                else
                  match visitBelow plan (visitRef plan budget) type (reached.listType name type) with
                  | (none, walk) => (none, walk)
                  | (some reason, walk) =>
                      (none, walk.recordFailure plan ⟨name, some target, type.repr, reason⟩)

/-- How many addresses there are. -/
def addressCount : Nat := UInt64.size

/-- A root that cannot be read or named has no name to be recorded under but its address. -/
def visitRoot (plan : Plan) (walk : Walk) (root : Address) : Walk :=
  match visitRef plan addressCount (.address root) walk with
  | (none, walk) => walk
  | (some reason, walk) =>
      walk.recordFailure plan ⟨s!"@{root}", some root, "<unreadable>", reason⟩

def sectionEvents (links : TypeLinks) : List WalkEvent :=
  links.tables.zipIdx.map fun ((base, offsets), index) =>
    .sectionFound index base offsets.length

/-- Lists the two types that no descriptor stands for, over whatever has their names. -/
def listPlaceholders (walk : Walk) : Walk :=
  (walk.listType opaquePointerName .opaquePointer).listType
    opaquePointerPointerName .opaquePointerPointer

def run (resolve : Resolver) (links : TypeLinks) (config : Config) : Walk :=
  let plan : Plan := ⟨resolve links.sections, config.maxNameDepth, config.logFailures⟩
  let opening := (sectionEvents links).foldl (fun walk event => walk.log event) start
  let closing := (links.roots.foldl (visitRoot plan) opening).listPlaceholders
  closing.log (.finished closing.found.types.size links.descriptorCount
    closing.found.failures.size)

end Walk

end TypeAtlas
