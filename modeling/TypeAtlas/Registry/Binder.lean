import TypeAtlas.Registry.Value

/-!
Binders turn an address and a signature into something that can be called. A binder that cannot
vouch for the code at the address refuses. Binding and calling may change the binder.
-/

namespace TypeAtlas

set_option autoImplicit false

inductive CallFault where
  | unsupported (text : String)
  | failed (text : String)
deriving DecidableEq, Repr

def CallFault.message : CallFault → String
  | .unsupported text => s!"binding not supported: {text}"
  | .failed text => s!"call failed: {text}"

/-- A bound function takes its arguments and the binder it came from. -/
abbrev BoundFunction (β : Type) := List DynValue → β → Except CallFault (List DynValue) × β

class CodeBinder (β : Type) where
  bind : Address → FuncSignature → β → Except CallFault (BoundFunction β) × β

/-- A binder whose answers are settled beforehand, and which remembers what was asked of it. A
refused binding leaves no trace. -/
structure ScriptedBinder where
  refusal : Option CallFault
  answer : Except CallFault (List DynValue)
  bound : Option (Address × FuncSignature)
  calls : List (List DynValue)

namespace ScriptedBinder

def returning (results : List DynValue) : ScriptedBinder := ⟨none, .ok results, none, []⟩

def call : BoundFunction ScriptedBinder := fun arguments binder =>
  (binder.answer, { binder with calls := binder.calls ++ [arguments] })

def bind (entry : Address) (signature : FuncSignature) (binder : ScriptedBinder) :
    Except CallFault (BoundFunction ScriptedBinder) × ScriptedBinder :=
  match binder.refusal with
  | some fault => (.error fault, binder)
  | none => (.ok call, { binder with bound := some (entry, signature) })

instance : CodeBinder ScriptedBinder := ⟨bind⟩

end ScriptedBinder

end TypeAtlas
