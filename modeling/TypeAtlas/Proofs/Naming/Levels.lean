import TypeAtlas.Proofs.Naming.Plain

/-!
How deep the recursion of naming goes. Each nested naming takes a frame of a stack. The recursion
counts its depth in a machine word, which it raises where it goes down and compares with the limit
one level further in. Two frames more than the limit are enough, whatever the descriptors refer to
and whatever is remembered, as long as the count cannot run over.
-/

namespace TypeAtlas.Naming

set_option autoImplicit false

/-- A naming on a stack. Nothing comes of it when the stack is out of frames, not even a failure. -/
abbrev Stacked := ExceptT DescriptorFault (StateT NameCache Option)

section Recursion

variable (describe : Address → Except DescriptorFault RuntimeType) (limit : Nat)

def overflow {α : Type} : Stacked α := ExceptT.mk fun _ => none

def stackedRemember (address : Option Address) (name : String) : Stacked Unit :=
  match address with
  | none => return
  | some known => modify (·.insert known name)

def stackedRefWith (nameType : RuntimeType → Stacked String) : TypeRef → Stacked String
  | .opaquePointer => return opaquePointerName
  | .address target => do
      let names ← get
      match names[target]? with
      | some name => return name
      | none =>
          let type ← describe target
          nameType type

/-- Names a type at a depth, which is compared with the limit here and raised on the way down. -/
def stackedAt : Nat → UInt64 → RuntimeType → Stacked String
  | 0, _, _ => overflow
  | frames + 1, depth, type =>
      if limit < depth.toNat then throw (.nameTooDeep limit)
      else do
        let names ← get
        match type.address.bind fun address => names[address]? with
        | some name => return name
        | none =>
            let part := stackedRefWith describe (stackedAt frames (depth + 1))
            let spelled ← type.spelling.mapM part
            let name := spelled.render
            stackedRemember type.address name
            return name

/-- On a stack of so many frames every naming ends, and it ends as it does without a stack. -/
structure FitsStack (frames : Nat) : Prop where
  types : ∀ type names, (stackedAt describe limit frames 0 type).run names =
    some ((nameOf describe limit type).run names)
  references : ∀ reference names,
    (stackedRefWith describe (stackedAt describe limit frames 0) reference).run names =
      some ((nameOfRef describe limit reference).run names)

end Recursion

/-- The stack is not felt: from every table of names the same comes of both. -/
def Unfelt {α : Type} (stacked : Stacked α) (naming : Naming α) : Prop :=
  ∀ names, stacked.run names = some (naming.run names)

variable {describe : Address → Except DescriptorFault RuntimeType} {limit : Nat}

theorem run_stacked_bind {α β : Type} (first : Stacked α) (next : α → Stacked β)
    (names : NameCache) :
    (first >>= next).run names = (first.run names).bind fun outcome => match outcome with
      | (.ok value, after) => (next value).run after
      | (.error fault, after) => some (.error fault, after) := by
  rw [ExceptT.run_bind]
  simp only [bind, StateT.bind]
  congr 1
  funext outcome
  rcases outcome with ⟨result | result, after⟩ <;> rfl

theorem carried_unfelt : Carried (m := Stacked) (n := Naming) fun _ => Unfelt := by
  constructor
  · intro α value names
    rfl
  · intro α β stacked naming stackedNext namingNext begun continued names
    rw [run_stacked_bind, run_bind, begun names]
    rcases naming.run names with ⟨fault | value, after⟩
    · rfl
    · exact continued value after

theorem unfelt_get : Unfelt get get := fun _ => rfl

theorem unfelt_remember (address : Option Address) (name : String) :
    Unfelt (stackedRemember address name) (remember address name) := by
  intro names
  cases address <;> rfl

theorem unfelt_ref {stacked : RuntimeType → Stacked String} {naming : RuntimeType → Naming String}
    (unfelt : ∀ type, Unfelt (stacked type) (naming type)) (reference : TypeRef) :
    Unfelt (stackedRefWith describe stacked reference) (nameRefWith describe naming reference) := by
  cases reference with
  | opaquePointer => exact carried_unfelt.pure _
  | address target =>
      apply carried_unfelt.bind unfelt_get
      intro names
      cases names[target]? with
      | some name => exact carried_unfelt.pure name
      | none =>
          apply carried_unfelt.bind
          · intro _
            cases describe target <;> rfl
          · exact unfelt

theorem stackedAt_beyond {depth : UInt64} (beyond : limit < depth.toNat) (frames : Nat)
    (type : RuntimeType) :
    stackedAt describe limit (frames + 1) depth type = throw (.nameTooDeep limit) := by
  rw [stackedAt, if_pos beyond]

/-- The induction is on the levels that the limit leaves. The count and the levels always add up
to one more than the limit, so that the count stops the recursion where no level is left. -/
theorem unfelt_at (bounded : limit < 2 ^ 64 - 1) (levels : Nat) :
    ∀ (frames : Nat) (depth : UInt64) (type : RuntimeType), levels < frames →
      depth.toNat + levels = limit + 1 →
        Unfelt (stackedAt describe limit frames depth type)
          (nameWithin describe limit levels type) := by
  induction levels with
  | zero =>
      intro frames depth type enough count
      cases frames with
      | zero => omega
      | succ frames =>
          have beyond : limit < depth.toNat := by omega
          rw [stackedAt_beyond beyond]
          intro names
          rfl
  | succ levels ih =>
      intro frames depth type enough count
      cases frames with
      | zero => omega
      | succ frames =>
          have within : ¬limit < depth.toNat := by omega
          have raised : (depth + 1).toNat = depth.toNat + 1 := by
            rw [UInt64.toNat_add, UInt64.toNat_one]
            omega
          have below : ∀ type, Unfelt (stackedAt describe limit frames (depth + 1) type)
              (nameWithin describe limit levels type) := by
            intro type
            exact ih frames (depth + 1) type (by omega) (by omega)
          rw [stackedAt, if_neg within, nameWithin]
          apply carried_unfelt.bind unfelt_get
          intro names
          cases type.address.bind fun address => names[address]? with
          | some name => exact carried_unfelt.pure name
          | none =>
              apply carried_unfelt.bind
                (carried_spelling carried_unfelt (unfelt_ref below) type.spelling)
              intro spelled
              apply carried_unfelt.bind (unfelt_remember type.address spelled.render)
              intro _
              exact carried_unfelt.pure spelled.render

/-- From the outermost level down, a naming is on two levels more than the limit at most. -/
theorem fits_stack (describe : Address → Except DescriptorFault RuntimeType)
    (bounded : limit < 2 ^ 64 - 1) {frames : Nat} (enough : limit + 2 ≤ frames) :
    FitsStack describe limit frames := by
  have outermost : ∀ type, Unfelt (stackedAt describe limit frames 0 type)
      (nameOf describe limit type) := by
    intro type
    exact unfelt_at bounded (limit + 1) frames 0 type (by omega) (by simp)
  exact ⟨outermost, unfelt_ref outermost⟩

/-- A pointer to itself takes all the frames that there may be need of. -/
example :
    let describe : Address → Except DescriptorFault RuntimeType := fun address =>
      .ok ⟨some address, .pointer, 8, none, none, "", .pointer (.address address)⟩
    (stackedRefWith describe (stackedAt describe 3 4 0) (.address ⟨64⟩)).run .empty = none := by
  rfl

end TypeAtlas.Naming
