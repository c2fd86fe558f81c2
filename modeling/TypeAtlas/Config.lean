import TypeAtlas.Json

/-!
The settings of a catalog and what makes them valid.
-/

namespace TypeAtlas

set_option autoImplicit false

structure Config where
  registrySymbol : String := "reflect.typelinks"
  pointerSize : Nat := 8
  maxNameDepth : Nat := 64
  logFailures : Bool := true
deriving DecidableEq, Repr, Inhabited

inductive ConfigFault where
  | emptySymbol
  | pointerSize (size : Nat)
  | zeroDepth
deriving DecidableEq, Repr

def ConfigFault.message : ConfigFault → String
  | .emptySymbol => "registry_symbol must not be empty"
  | .pointerSize size => s!"unsupported pointer_size {size}: only 8 is supported"
  | .zeroDepth => "max_name_depth must be greater than 0"

namespace Config

def withRegistrySymbol (config : Config) (symbol : String) : Config :=
  { config with registrySymbol := symbol }

def withMaxNameDepth (config : Config) (depth : Nat) : Config :=
  { config with maxNameDepth := depth }

/-- The first thing wrong with the settings, in the order of the fields. -/
def fault? (config : Config) : Option ConfigFault :=
  if config.registrySymbol.isEmpty then some .emptySymbol
  else if config.pointerSize ≠ 8 then some (.pointerSize config.pointerSize)
  else if config.maxNameDepth = 0 then some .zeroDepth
  else none

def toJson (config : Config) : Json :=
  .record [("registry_symbol", .text config.registrySymbol),
    ("pointer_size", .ofNat config.pointerSize), ("max_name_depth", .ofNat config.maxNameDepth),
    ("log_failures", .bool config.logFailures)]

end Config

end TypeAtlas
