import TypeAtlas.Proofs.Descriptor.Decoding

/-!
What holds of every descriptor that is read from an image, whatever bytes the image has. The
readers check what they read, so that a descriptor which they answer refers to no missing part,
has the shape of its kind, and carries names that fit each other.
-/

namespace TypeAtlas

set_option autoImplicit false

/-- Whatever the computation answers is good. -/
def Yields {ε α : Type} (computation : Except ε α) (good : α → Prop) : Prop :=
  ∀ value, computation = .ok value → good value

section Answers

variable {ε δ α β : Type} {computation : Except ε α} {good between : α → Prop}

theorem yields_pure {value : α} (holds : good value) : Yields (ε := ε) (pure value) good := by
  intro answer same
  cases same
  exact holds

theorem yields_error {fault : ε} : Yields (.error fault) good := by
  intro answer same
  cases same

theorem yields_mono (yields : Yields computation between)
    (weaker : ∀ value, between value → good value) : Yields computation good :=
  fun value answer => weaker value (yields value answer)

theorem yields_bind {next : α → Except ε β} {last : β → Prop} (first : Yields computation good)
    (later : ∀ value, good value → Yields (next value) last) :
    Yields (computation >>= next) last := by
  intro answer same
  cases computation with
  | error fault => cases same
  | ok value => exact later value (first value rfl) answer same

theorem yields_map (yields : Yields computation good) (convert : α → β) :
    Yields (convert <$> computation) fun answer =>
      ∃ value, answer = convert value ∧ good value := by
  intro answer same
  cases computation with
  | error fault => cases same
  | ok value =>
      cases same
      exact ⟨value, rfl, yields value rfl⟩

/-- What is not looked at any further may be anything. -/
theorem yields_any : Yields computation fun _ => True := fun _ _ => trivial

/-- A list is answered place by place. -/
theorem yields_list {answer : α → Except ε β} {each : β → Prop}
    (yields : ∀ part, Yields (answer part) each) (parts : List α) :
    Yields (parts.mapM answer) fun items =>
      items.length = parts.length ∧ ∀ item ∈ items, each item := by
  induction parts with
  | nil =>
      rw [List.mapM_nil]
      exact yields_pure ⟨rfl, by simp⟩
  | cons part parts ih =>
      rw [List.mapM_cons]
      refine yields_bind (yields part) ?_
      intro first holds
      refine yields_bind ih ?_
      intro items rest
      refine yields_pure ⟨congrArg Nat.succ rest.1, ?_⟩
      intro item member
      rcases List.mem_cons.mp member with rfl | later
      · exact holds
      · exact rest.2 item later

end Answers

namespace RuntimeType

/-- A reference that leads to an address. -/
def Leads (reference : TypeRef) : Prop :=
  ∃ target : Address, reference = .address target ∧ target.isNull = false

/-- A method's type is an address, if it has been kept. -/
def Addressed (method : Method) : Prop :=
  ∀ signature, method.signature = some signature → ∃ target, signature = .address target

/-- The shape belongs to the kind, its parts are there, and there are not too many of them. -/
inductive Belongs : Kind → Shape → Prop where
  | primitive {kind : Kind} : kind ∉ tailed → Belongs kind .primitive
  | pointer {elem : TypeRef} : Leads elem → Belongs .pointer (.pointer elem)
  | slice {elem : TypeRef} : Leads elem → Belongs .slice (.slice elem)
  | array {elem : TypeRef} {length : UInt64} : Leads elem → Belongs .array (.array elem length)
  | chan {elem : TypeRef} {dir : ChanDir} : Leads elem → Belongs .chan (.chan elem dir)
  | map {key elem : TypeRef} : Leads key → Leads elem → Belongs .map (.map key elem)
  | func {params results : List TypeRef} {variadic : Bool} : params.length ≤ 65535 →
      results.length ≤ 32767 → (∀ param ∈ params, Leads param) →
        (∀ result ∈ results, Leads result) → Belongs .func (.func params results variadic)
  | struct {fields : List StructField} {methods : List Method} : fields.length ≤ 65536 →
      methods.length ≤ 65535 → (∀ field ∈ fields, Leads field.type) →
        (∀ method ∈ methods, Addressed method) → Belongs .struct (.struct fields methods)
  | interface {methods : List Method} : methods.length ≤ 65536 →
      (∀ method ∈ methods, Addressed method) → Belongs .interface (.interface methods)

/-- The name is the runtime string or follows one of its dots. Unless too many of its brackets are
open at once, that is the last dot outside of brackets. -/
structure Ends (repr name : String) : Prop where
  whole : name = repr ∨ ∃ front, repr = front ++ "." ++ name
  last : Shallow name.toList → LastPart repr.toList name.toList

/-- A descriptor that stands at an address of one of the sections, with the shape of its kind and
a name with which its runtime string ends. -/
structure WellFormed (sections : List Address) (address : Address) (type : RuntimeType) :
    Prop where
  placed : type.address = some address
  present : address.isNull = false
  aligned : address.val.toNat % 8 = 0
  owned : ∃ sectionBase ∈ sections, sectionBase ≤ address
  shape : Belongs type.kind type.shape
  path : type.pkgPath ≠ some ""
  name : ∀ name, type.name = some name → Ends type.repr name

section Readers

variable (image : Image) (address : Address)

theorem readRef_yields (referent : Referent) : Yields (readRef image address referent) Leads := by
  refine yields_bind yields_any ?_
  intro target _
  dsimp only
  split
  · exact yields_error
  · rename_i present
    exact yields_pure ⟨target, rfl, Bool.eq_false_iff.mpr present⟩

theorem readCount_yields : Yields (readCount image address) (· ≤ 65536) := by
  refine yields_bind yields_any ?_
  intro count _
  split
  · exact yields_error
  · rename_i sensible
    exact yields_pure (UInt64.not_lt.mp sensible)

theorem readRows_yields {α : Type} {readRow : Address → Except DescriptorFault α}
    {each : α → Prop} (yields : ∀ row, Yields (readRow row) each) (stride count : Nat)
    (table : Address) : Yields (readRows readRow stride count table) fun rows =>
      rows.length = count ∧ ∀ row ∈ rows, each row := by
  have listed := yields_list (fun index => yields (table + UInt64.ofNat (stride * index)))
    (List.range count)
  rwa [List.length_range] at listed

theorem readTable_yields {α : Type} {readRow : Address → Except DescriptorFault α}
    {each : α → Prop} (yields : ∀ row, Yields (readRow row) each) (stride : Nat)
    (referent : Referent) : Yields (readTable image readRow stride address referent) fun rows =>
      rows.length ≤ 65536 ∧ ∀ row ∈ rows, each row := by
  refine yields_bind yields_any ?_
  intro table _
  refine yields_bind (readCount_yields image _) ?_
  intro count few
  split
  · exact yields_error
  · refine yields_mono (readRows_yields yields _ _ _) ?_
    intro rows read
    exact ⟨read.1 ▸ few, read.2⟩

theorem readField_yields :
    Yields (readField image address) fun field => Leads field.type := by
  refine yields_bind yields_any ?_
  intro nameAddress _
  refine yields_bind yields_any ?_
  intro name _
  refine yields_bind (readRef_yields image _ _) ?_
  intro type leads
  refine yields_bind yields_any ?_
  intro offset _
  exact yields_pure leads

variable (sectionBase : Address)

theorem signatureAt_addressed (name : String) (offset : Int32) :
    Addressed ⟨name, signatureAt sectionBase offset⟩ := by
  intro signature kept
  rw [signatureAt] at kept
  split at kept
  · cases kept
  · cases kept
    exact ⟨_, rfl⟩

theorem readMethod_yields : Yields (readMethod image sectionBase address) Addressed := by
  refine yields_bind yields_any ?_
  intro nameOffset _
  refine yields_bind yields_any ?_
  intro typeOffset _
  refine yields_bind yields_any ?_
  intro name _
  exact yields_pure (signatureAt_addressed sectionBase name.text typeOffset)

theorem readCounts_yields {pkgPath : Option String} (filled : pkgPath ≠ some "") :
    Yields (readCounts image address pkgPath) fun uncommon => uncommon.pkgPath ≠ some "" := by
  refine yields_bind yields_any ?_
  intro methodCount _
  refine yields_bind yields_any ?_
  intro exportedCount _
  refine yields_bind yields_any ?_
  intro methodsOffset _
  exact yields_pure filled

/-- A path without characters is taken for none. -/
theorem readUncommon_yields : Yields (readUncommon image sectionBase address)
    fun uncommon => uncommon.pkgPath ≠ some "" := by
  rw [readUncommon_eq]
  refine yields_bind yields_any ?_
  intro pathOffset _
  split
  · exact readCounts_yields image address (by simp)
  · refine yields_bind yields_any ?_
    intro path _
    apply readCounts_yields
    split
    · simp
    · rename_i filled
      intro blank
      rw [Option.some.inj blank] at filled
      exact filled rfl

theorem readMethods_yields (uncommon : Uncommon) :
    Yields (readMethods image sectionBase address uncommon) fun methods =>
      methods.length ≤ 65535 ∧ ∀ method ∈ methods, Addressed method := by
  rw [readMethods]
  split
  · exact yields_error
  · refine yields_mono (readRows_yields (readMethod_yields image · sectionBase) _ _ _) ?_
    intro methods read
    refine ⟨?_, read.2⟩
    have few := uncommon.exportedCount.toNat_lt
    omega

theorem readFunc_yields (layout : DescriptorLayout) (hasBlock : Bool) :
    Yields (readFunc image layout address hasBlock) (Belongs .func) := by
  have rows (referent : Referent) := readRows_yields (readRef_yields image · referent) 8
  refine yields_bind yields_any ?_
  intro parameterCount _
  refine yields_bind yields_any ?_
  intro resultWord _
  refine yields_bind (rows .parameter _ _) ?_
  intro params paramsRead
  refine yields_bind (rows .result _ _) ?_
  intro results resultsRead
  apply yields_pure
  have fewParams := parameterCount.toNat_lt
  have fewResults := Nat.mod_lt resultWord.toNat (show 0 < 32768 by decide)
  exact .func (by omega) (by omega) paramsRead.2 resultsRead.2

theorem readShape_yields (layout : DescriptorLayout) (kind : Kind) (uncommon : Option Uncommon) :
    Yields (readShape image layout sectionBase address kind uncommon) (Belongs kind) := by
  have reference (place : Address) (referent : Referent) := readRef_yields image place referent
  cases kind with
  | pointer => exact yields_bind (reference _ _) fun elem leads => yields_pure (.pointer leads)
  | slice => exact yields_bind (reference _ _) fun elem leads => yields_pure (.slice leads)
  | array =>
      refine yields_bind (reference _ _) ?_
      intro elem leads
      exact yields_bind yields_any fun length _ => yields_pure (.array leads)
  | chan =>
      refine yields_bind yields_any ?_
      intro bits _
      split
      · exact yields_error
      · exact yields_bind (reference _ _) fun elem leads => yields_pure (.chan leads)
  | map =>
      refine yields_bind (reference _ _) ?_
      intro key keyLeads
      exact yields_bind (reference _ _) fun elem leads => yields_pure (.map keyLeads leads)
  | func => exact readFunc_yields image address layout _
  | struct =>
      refine yields_bind (readTable_yields image _ (readField_yields image) _ _) ?_
      intro fields fieldsRead
      cases uncommon with
      | none =>
          exact yields_pure (.struct fieldsRead.1 (by simp) fieldsRead.2 (by simp))
      | some block =>
          refine yields_bind (readMethods_yields image _ sectionBase block) ?_
          intro methods methodsRead
          exact yields_pure (.struct fieldsRead.1 methodsRead.1 fieldsRead.2 methodsRead.2)
  | interface =>
      refine yields_bind
        (readTable_yields image _ (readMethod_yields image · sectionBase) _ _) ?_
      intro methods methodsRead
      exact yields_pure (.interface methodsRead.1 methodsRead.2)
  | _ => exact yields_pure (.primitive (by decide))

theorem named_ends (flags : Flags) (repr : String) :
    ∀ name, (if flags.named then some (shortName repr) else none) = some name →
      Ends repr name := by
  intro name named
  split at named
  · cases named
    refine ⟨shortName_ends repr, ?_⟩
    intro shallow
    exact (lastPart_iff shallow).mp (shortName_partBehind repr)
  · cases named

theorem decode_yields (layout : DescriptorLayout) (sections : List Address)
    (owned : ∃ base ∈ sections, base ≤ address) :
    Yields (decode image layout sectionBase address) (WellFormed sections address) := by
  rw [decode]
  split
  · exact yields_error
  rename_i present
  split
  · exact yields_error
  rename_i aligned
  have divides : address.val.toNat % 8 = 0 := by
    have whole : address.val % 8 = 0 := by simpa [Address.isAligned] using aligned
    simpa using congrArg UInt64.toNat whole
  refine yields_bind yields_any ?_
  intro size _
  refine yields_bind yields_any ?_
  intro flagByte _
  refine yields_bind yields_any ?_
  intro kindByte _
  dsimp only
  split
  · exact yields_error
  rename_i kind _
  refine yields_bind yields_any ?_
  intro textOffset _
  refine yields_bind yields_any ?_
  intro text _
  -- The block decides the package path only; what follows it is read in the same way without one.
  have rest (uncommon : Option Uncommon) (filled : uncommon.bind Uncommon.pkgPath ≠ some "")
      (repr : String) :
      Yields (readShape image layout sectionBase address kind uncommon >>= fun shape => pure
        (⟨some address, kind, size,
          if (Flags.ofByte flagByte).named then some (shortName repr) else none,
          uncommon.bind (·.pkgPath), repr, shape⟩ : RuntimeType))
        (WellFormed sections address) := by
    refine yields_bind (readShape_yields image address sectionBase layout kind uncommon) ?_
    intro shape belongs
    exact yields_pure ⟨rfl, Bool.eq_false_iff.mpr present, divides, owned, belongs, filled,
      named_ends _ repr⟩
  split
  · refine yields_bind (yields_map (readUncommon_yields image _ sectionBase) some) ?_
    intro uncommon read
    obtain ⟨block, rfl, filled⟩ := read
    exact rest (some block) filled _
  · exact rest none (by simp) _

end Readers

/-- Whatever is resolved in an image is well formed, whatever bytes the image has. -/
theorem resolved_well_formed (image : Image) (layout : DescriptorLayout) (sections : List Address)
    (address : Address) (type : RuntimeType)
    (resolved : Resolver.ofImage image layout sections address = .ok type) :
    WellFormed sections address type := by
  rw [Resolver.ofImage] at resolved
  split at resolved
  · cases resolved
  · rename_i sectionBase held
    have among := List.mem_filter.mp (List.max?_mem held)
    exact decode_yields image address sectionBase layout sections
      ⟨sectionBase, among.1, of_decide_eq_true among.2⟩ type resolved

theorem resolved_well_formed_over_pair :
    Resolver.ofImage pairImage .buckets [⟨8192⟩, ⟨4096⟩, ⟨64⟩] ⟨4096⟩ = .ok pair ∧
      WellFormed [⟨8192⟩, ⟨4096⟩, ⟨64⟩] ⟨4096⟩ pair := by
  have resolved : Resolver.ofImage pairImage .buckets [⟨8192⟩, ⟨4096⟩, ⟨64⟩] ⟨4096⟩ = .ok pair := by
    decide +kernel
  exact ⟨resolved, resolved_well_formed pairImage .buckets _ ⟨4096⟩ pair resolved⟩

end RuntimeType

end TypeAtlas
