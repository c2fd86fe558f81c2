import Std.Data.TreeMap.Basic
import TypeAtlas.Descriptor.Export

/-!
Everything a walk has found: the types by canonical name, the names by address, and the failures
by the name of the type they belong to. The views list the tables in the order of their keys.
-/

namespace TypeAtlas

set_option autoImplicit false

structure Inventory where
  types : Std.TreeMap String RuntimeType
  byAddress : Std.TreeMap Address String
  failures : Std.TreeMap String TypeFailure

namespace Inventory

def empty : Inventory := ⟨.empty, .empty, .empty⟩

instance : Inhabited Inventory := ⟨empty⟩

def insertType (inventory : Inventory) (name : String) (type : RuntimeType) : Inventory :=
  { inventory with types := inventory.types.insert name type }

def insertAddress (inventory : Inventory) (address : Address) (name : String) : Inventory :=
  { inventory with byAddress := inventory.byAddress.insert address name }

/-- The first failure recorded under a name stays. -/
def recordFailure (inventory : Inventory) (failure : TypeFailure) : Inventory :=
  { inventory with failures := inventory.failures.insertIfNew failure.name failure }

def typeNamed? (inventory : Inventory) (name : String) : Option RuntimeType :=
  inventory.types[name]?

/-- The type listed under the name that was given to the address. -/
def typeAt? (inventory : Inventory) (address : Address) : Option RuntimeType :=
  inventory.byAddress[address]?.bind inventory.typeNamed?

def typeNames (inventory : Inventory) : List String := inventory.types.toList.map Prod.fst

def listTypes (inventory : Inventory) : List RuntimeType := inventory.types.toList.map Prod.snd

def listFailures (inventory : Inventory) : List TypeFailure :=
  inventory.failures.toList.map Prod.snd

def size (inventory : Inventory) : Nat := inventory.types.size

end Inventory

end TypeAtlas
