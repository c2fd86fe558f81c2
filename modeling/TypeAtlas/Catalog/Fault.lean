import TypeAtlas.Config
import TypeAtlas.DebugInfo.Entry
import TypeAtlas.Registry.Binder
import TypeAtlas.Text.Quoted

/-!
Why a catalog cannot be built or has no answer.
-/

namespace TypeAtlas

set_option autoImplicit false

inductive Missing where
  | registryFunction (symbol : String)
  | registryEntry
  | typeNamed (name : String)
  | typeAt (address : Address)
  | debugType (key : String)
deriving DecidableEq, Repr

def Missing.message : Missing → String
  | .registryFunction symbol => s!"unable to find {symbol}"
  | .registryEntry => "registry entry address is null"
  | .typeNamed name => s!"type {name}: unknown type"
  | .typeAt address => s!"no type registered at {address}"
  | .debugType key => s!"dwarf type {Text.quoted key} unknown"

inductive InvocationFault where
  | spent
  | refused (signature : FuncSignature) (entry : Address) (fault : CallFault)
  | failed (fault : CallFault)
deriving DecidableEq, Repr

def InvocationFault.message : InvocationFault → String
  | .spent => "build inputs already consumed"
  | .refused signature entry fault => s!"{signature.render} at {entry}: {fault.message}"
  | .failed fault => fault.message

inductive CatalogFault where
  | notFound (missing : Missing)
  | shapeMismatch (mismatch : LinksMismatch)
  | debugInfo (fault : EntryFault)
  | invocation (fault : InvocationFault)
  | config (fault : ConfigFault)
deriving DecidableEq, Repr

namespace CatalogFault

def message : CatalogFault → String
  | .notFound missing => s!"not found: {missing.message}"
  | .shapeMismatch mismatch => s!"registry result shape mismatch: {mismatch.message}"
  | .debugInfo fault => s!"debug info error: {fault.message}"
  | .invocation fault => s!"registry invocation failed: {fault.message}"
  | .config fault => s!"invalid configuration: {fault.message}"

def isNotFound : CatalogFault → Bool
  | .notFound _ => true
  | _ => false

end CatalogFault

end TypeAtlas
