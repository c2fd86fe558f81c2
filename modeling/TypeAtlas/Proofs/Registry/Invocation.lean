import TypeAtlas.Catalog.Basic
import TypeAtlas.Proofs.Registry.Checks

/-!
The call of the registry function, told by what is done to the binder. A binder that keeps a
record of it binds and answers as the binder itself does.
-/

namespace TypeAtlas

set_option autoImplicit false

/-- What is done to a binder: a binding, with the fault if it was refused, and a call of what was
bound, with its answer. -/
inductive Deed where
  | bound (entry : Address) (signature : FuncSignature) (refusal : Option CallFault)
  | called (arguments : List DynValue) (answer : Except CallFault (List DynValue))

namespace Deed

def binding? : Deed → Option (Address × FuncSignature)
  | .bound entry signature _ => some (entry, signature)
  | .called _ _ => none

def arguments? : Deed → Option (List DynValue)
  | .bound _ _ _ => none
  | .called arguments _ => some arguments

end Deed

/-- A binder with what was done to it, oldest first. -/
structure WatchedBinder (β : Type) where
  binder : β
  deeds : List Deed

namespace WatchedBinder

variable {β : Type} [CodeBinder β]

def watch (function : BoundFunction β) : BoundFunction (WatchedBinder β) :=
  fun arguments watched =>
    let (answer, binder) := function arguments watched.binder
    (answer, ⟨binder, watched.deeds ++ [.called arguments answer]⟩)

def bind (entry : Address) (signature : FuncSignature) (watched : WatchedBinder β) :
    Except CallFault (BoundFunction (WatchedBinder β)) × WatchedBinder β :=
  match CodeBinder.bind entry signature watched.binder with
  | (.error fault, binder) =>
      (.error fault, ⟨binder, watched.deeds ++ [.bound entry signature (some fault)]⟩)
  | (.ok function, binder) =>
      (.ok (watch function), ⟨binder, watched.deeds ++ [.bound entry signature none]⟩)

instance : CodeBinder (WatchedBinder β) := ⟨bind⟩

theorem bind_refused {entry : Address} {signature : FuncSignature} {binder rest : β}
    {fault : CallFault} (refused : CodeBinder.bind entry signature binder = (.error fault, rest))
    (deeds : List Deed) :
    CodeBinder.bind entry signature (⟨binder, deeds⟩ : WatchedBinder β) =
      (.error fault, ⟨rest, deeds ++ [.bound entry signature (some fault)]⟩) := by
  change bind entry signature ⟨binder, deeds⟩ = _
  rw [bind, refused]

theorem bind_bound {entry : Address} {signature : FuncSignature} {binder rest : β}
    {function : BoundFunction β}
    (bound : CodeBinder.bind entry signature binder = (.ok function, rest)) (deeds : List Deed) :
    CodeBinder.bind entry signature (⟨binder, deeds⟩ : WatchedBinder β) =
      (.ok (watch function), ⟨rest, deeds ++ [.bound entry signature none]⟩) := by
  change bind entry signature ⟨binder, deeds⟩ = _
  rw [bind, bound]

end WatchedBinder

/-- The function takes nothing and gives a list of addresses and a list of lists of offsets. -/
def registrySignature : FuncSignature :=
  ⟨[], [.sequence .opaquePointer, .sequence (.sequence .uint32)]⟩

theorem typeLinks_eq : FuncSignature.typeLinks = registrySignature := rfl

/-- What is done to the binder for the function at an address, and what it comes to. -/
inductive Invocation (entry : Address) : List Deed → Except CatalogFault TypeLinks → Prop where
  | null : entry.isNull = true → Invocation entry [] (.error (.notFound .registryEntry))
  | refused (fault : CallFault) : entry.isNull = false →
      Invocation entry [.bound entry registrySignature (some fault)]
        (.error (.invocation (.refused registrySignature entry fault)))
  | failed (fault : CallFault) : entry.isNull = false →
      Invocation entry [.bound entry registrySignature none, .called [] (.error fault)]
        (.error (.invocation (.failed fault)))
  | mismatched {values : List DynValue} {mismatch : LinksMismatch} : entry.isNull = false →
      ¬Checked values → TypeLinks.ofValues values = .error mismatch →
        Invocation entry [.bound entry registrySignature none, .called [] (.ok values)]
          (.error (.shapeMismatch mismatch))
  | accepted {values : List DynValue} {links : TypeLinks} : entry.isNull = false →
      Checked values → TypeLinks.ofValues values = .ok links →
        Invocation entry [.bound entry registrySignature none, .called [] (.ok values)] (.ok links)

variable {β : Type} [CodeBinder β]

theorem invokeRegistry_null {entry : Address} (null : entry.isNull = true) (binder : β) :
    invokeRegistry entry binder = (.error (.notFound .registryEntry), binder) := by
  rw [invokeRegistry, if_pos null]

theorem invokeRegistry_refused {entry : Address} {binder rest : β} {fault : CallFault}
    (mapped : entry.isNull = false)
    (refused : CodeBinder.bind entry registrySignature binder = (.error fault, rest)) :
    invokeRegistry entry binder =
      (.error (.invocation (.refused registrySignature entry fault)), rest) := by
  rw [invokeRegistry, if_neg (by simp [mapped]), typeLinks_eq, refused]

theorem invokeRegistry_called {entry : Address} {binder between rest : β}
    {function : BoundFunction β} {answer : Except CallFault (List DynValue)}
    (mapped : entry.isNull = false)
    (bound : CodeBinder.bind entry registrySignature binder = (.ok function, between))
    (called : function [] between = (answer, rest)) :
    invokeRegistry entry binder =
      ((answer.mapError fun fault => .invocation (.failed fault)).bind fun values =>
        (TypeLinks.ofValues values).mapError .shapeMismatch, rest) := by
  rw [invokeRegistry, if_neg (by simp [mapped]), typeLinks_eq, bound]
  simp only [called]
  cases answer <;> rfl

/-- What comes of a call that was made is settled by its answer. -/
theorem Invocation.of_answer {entry : Address} (mapped : entry.isNull = false)
    (answer : Except CallFault (List DynValue)) :
    Invocation entry [.bound entry registrySignature none, .called [] answer]
      ((answer.mapError fun fault => .invocation (.failed fault)).bind fun values =>
        (TypeLinks.ofValues values).mapError .shapeMismatch) := by
  cases answer with
  | error fault => exact .failed fault mapped
  | ok values =>
      have accepted := TypeLinks.ofValues_ok_iff values
      change Invocation entry _ ((TypeLinks.ofValues values).mapError CatalogFault.shapeMismatch)
      cases read : TypeLinks.ofValues values with
      | ok links => exact .accepted mapped (accepted.mp ⟨links, read⟩) read
      | error mismatch =>
          refine .mismatched mapped ?_ read
          intro checked
          obtain ⟨links, unread⟩ := accepted.mpr checked
          rw [read] at unread
          cases unread

/-- A watched binder comes to the same, with what was done added to the record. -/
theorem invokeRegistry_watched (entry : Address) (binder : β) (deeds : List Deed) :
    ∃ done, Invocation entry done (invokeRegistry entry binder).1 ∧
      invokeRegistry entry (⟨binder, deeds⟩ : WatchedBinder β) =
        ((invokeRegistry entry binder).1, ⟨(invokeRegistry entry binder).2, deeds ++ done⟩) := by
  cases nullity : entry.isNull with
  | true =>
      refine ⟨[], ?_, ?_⟩
      · rw [invokeRegistry_null nullity]
        exact .null nullity
      · rw [invokeRegistry_null nullity, invokeRegistry_null nullity, List.append_nil]
  | false =>
      rcases binding : CodeBinder.bind entry registrySignature binder with ⟨fault | function, between⟩
      · refine ⟨[.bound entry registrySignature (some fault)], ?_, ?_⟩
        · rw [invokeRegistry_refused nullity binding]
          exact .refused fault nullity
        · rw [invokeRegistry_refused nullity binding,
            invokeRegistry_refused nullity (WatchedBinder.bind_refused binding deeds)]
      · rcases calling : function [] between with ⟨answer, rest⟩
        have plain := invokeRegistry_called nullity binding calling
        have watchedCall : WatchedBinder.watch function []
            ⟨between, deeds ++ [.bound entry registrySignature none]⟩ =
              (answer, ⟨rest, deeds ++ [.bound entry registrySignature none] ++ [.called [] answer]⟩) := by
          rw [WatchedBinder.watch, calling]
        refine ⟨[.bound entry registrySignature none, .called [] answer], ?_, ?_⟩
        · rw [plain]
          exact .of_answer nullity answer
        · rw [plain, invokeRegistry_called nullity (WatchedBinder.bind_bound binding deeds)
            watchedCall, List.append_assoc]
          rfl

end TypeAtlas
