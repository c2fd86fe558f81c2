import TypeAtlas.Proofs.Descriptor.Decoding
import TypeAtlas.Proofs.Lists

/-!
What is resolved in the beginning of an image only. Every read there finds the bytes that the whole
image has, or fails where the image was cut off, and no reader of descriptors goes on without what
it failed to read. So the answer is that of the whole image or the fault of a read that was cut off.
-/

namespace TypeAtlas

set_option autoImplicit false

/-- One computation answers what the other does, or fails with a fault of a kind. -/
def Alike {ε : Type} (lost : ε → Prop) (α : Type) (short whole : Except ε α) : Prop :=
  short = whole ∨ ∃ fault, short = .error fault ∧ lost fault

section Carrying

variable {ε δ α β : Type} {lost : ε → Prop} {short whole : Except ε α}

theorem alike_bind {next other : α → Except ε β} (related : Alike lost α short whole)
    (later : ∀ value, Alike lost β (next value) (other value)) :
    Alike lost β (short >>= next) (whole >>= other) := by
  rcases related with rfl | ⟨fault, rfl, cut⟩
  · cases short with
    | error fault => exact .inl rfl
    | ok value => exact later value
  · exact .inr ⟨fault, rfl, cut⟩

theorem carried_alike : Carried (Alike lost) :=
  ⟨fun _ => .inl rfl, alike_bind⟩

theorem alike_map (related : Alike lost α short whole) (convert : α → β) :
    Alike lost β (short.map convert) (whole.map convert) := by
  rcases related with rfl | ⟨fault, rfl, cut⟩
  · exact .inl rfl
  · exact .inr ⟨fault, rfl, cut⟩

/-- Faults that are told in other words are still of the kind if the words are. -/
theorem alike_mapError {worse : δ → Prop} {describe : ε → δ} (related : Alike lost α short whole)
    (told : ∀ fault, lost fault → worse (describe fault)) :
    Alike worse α (short.mapError describe) (whole.mapError describe) := by
  rcases related with rfl | ⟨fault, rfl, cut⟩
  · exact .inl rfl
  · exact .inr ⟨describe fault, rfl, told fault cut⟩

end Carrying

namespace Image

/-- The first bytes of an image, from the same base. -/
def truncate (image : Image) (length : Nat) : Image := ⟨image.base, image.bytes.extract 0 length⟩

/-- Bytes from this address on were there before the image was cut off. -/
def Lost (image : Image) (length : Nat) (address : Address) : Prop :=
  ∃ width, image.Covers address width ∧ ¬(image.truncate length).Covers address width

/-- A read that fails only because the image was cut off. -/
inductive Cut (image : Image) (length : Nat) : MemoryFault → Prop where
  | outOfBounds {address : Address} : image.Lost length address →
      Cut image length (.outOfBounds address)

variable (image : Image) (length : Nat) (address : Address)

theorem covers_of_truncate {image : Image} {length width : Nat} {address : Address}
    (covers : (image.truncate length).Covers address width) : image.Covers address width := by
  obtain ⟨above, inside⟩ := covers
  refine ⟨above, Nat.le_trans inside ?_⟩
  simp only [truncate, Array.size_extract, Nat.sub_zero]
  exact Nat.min_le_right _ _

theorem read_truncate (width : Nat) :
    Alike (image.Cut length) (List UInt8) ((image.truncate length).read address width)
      (image.read address width) := by
  by_cases kept : (image.truncate length).Covers address width
  · left
    have inside : image.position address + width ≤ min length image.bytes.size := by
      simpa [truncate, position] using kept.2
    have same : (image.truncate length).bytes.extract (image.position address)
        (image.position address + width) =
          image.bytes.extract (image.position address) (image.position address + width) := by
      rw [truncate, Array.extract_extract, Nat.zero_add, Nat.zero_add,
        Nat.min_eq_left (Nat.le_trans inside (Nat.min_le_left _ _))]
    rw [read, read, if_pos kept, if_pos (covers_of_truncate kept)]
    exact congrArg (fun bytes => Except.ok bytes.toList) same
  · -- A read that the whole image has no bytes for fails in both, in the same words.
    by_cases there : image.Covers address width
    · right
      exact ⟨.outOfBounds address, if_neg kept, .outOfBounds ⟨width, there, kept⟩⟩
    · left
      rw [read, read, if_neg kept, if_neg there]

theorem readNat_truncate (width : Nat) :
    Alike (image.Cut length) Nat ((image.truncate length).readNat address width)
      (image.readNat address width) :=
  alike_map (image.read_truncate length address width) _

theorem readUInt8_truncate :
    Alike (image.Cut length) UInt8 ((image.truncate length).readUInt8 address)
      (image.readUInt8 address) :=
  alike_map (image.readNat_truncate length address 1) _

theorem readUInt16_truncate :
    Alike (image.Cut length) UInt16 ((image.truncate length).readUInt16 address)
      (image.readUInt16 address) :=
  alike_map (image.readNat_truncate length address 2) _

theorem readUInt32_truncate :
    Alike (image.Cut length) UInt32 ((image.truncate length).readUInt32 address)
      (image.readUInt32 address) :=
  alike_map (image.readNat_truncate length address 4) _

theorem readUInt64_truncate :
    Alike (image.Cut length) UInt64 ((image.truncate length).readUInt64 address)
      (image.readUInt64 address) :=
  alike_map (image.readNat_truncate length address 8) _

theorem readText_truncate (width : Nat) :
    Alike (image.Cut length) String ((image.truncate length).readText address width)
      (image.readText address width) :=
  carried_alike.bind (image.read_truncate length address width) fun _ => .inl rfl

end Image

namespace RuntimeType

/-- The fault of a resolver that comes only of cutting the image off. The text of a name that was
cut off is reported as an invalid name. -/
inductive Cut (image : Image) (length : Nat) : DescriptorFault → Prop where
  | memory {address : Address} : image.Lost length address →
      Cut image length (.memory (.outOfBounds address))
  | name (name : Address) {address : Address} : image.Lost length address →
      Cut image length (.invalidName name (.unreadable (.outOfBounds address)))

section Readers

variable (image : Image) (length : Nat)

theorem cut_memory (fault : MemoryFault) (cut : image.Cut length fault) :
    Cut image length (.memory fault) := by
  cases cut with
  | outOfBounds lost => exact .memory lost

theorem cut_name (name : Address) (fault : MemoryFault) (cut : image.Cut length fault) :
    Cut image length (.invalidName name (.unreadable fault)) := by
  cases cut with
  | outOfBounds lost => exact .name name lost

variable (address : Address)

theorem readWord_truncate : Alike (Cut image length) UInt64
    (readWord (image.truncate length) address) (readWord image address) :=
  alike_mapError (image.readUInt64_truncate length address) (cut_memory image length)

theorem readPointer_truncate : Alike (Cut image length) Address
    (readPointer (image.truncate length) address) (readPointer image address) :=
  alike_mapError (alike_map (image.readUInt64_truncate length address) _) (cut_memory image length)

theorem readHalf_truncate : Alike (Cut image length) UInt16
    (readHalf (image.truncate length) address) (readHalf image address) :=
  alike_mapError (image.readUInt16_truncate length address) (cut_memory image length)

theorem readByte_truncate : Alike (Cut image length) UInt8
    (readByte (image.truncate length) address) (readByte image address) :=
  alike_mapError (image.readUInt8_truncate length address) (cut_memory image length)

theorem readOffset_truncate : Alike (Cut image length) Int32
    (readOffset (image.truncate length) address) (readOffset image address) :=
  alike_mapError (alike_map (image.readUInt32_truncate length address) _) (cut_memory image length)

theorem readRef_truncate (referent : Referent) : Alike (Cut image length) TypeRef
    (readRef (image.truncate length) address referent) (readRef image address referent) := by
  apply carried_alike.bind (readPointer_truncate image length address)
  intro target
  exact .inl rfl

theorem readCount_truncate : Alike (Cut image length) Nat
    (readCount (image.truncate length) address) (readCount image address) := by
  apply carried_alike.bind (readWord_truncate image length address)
  intro count
  exact .inl rfl

theorem readLength_truncate (name : Address) (shift : Nat) (filled : UInt64)
    (cursor : Address) : Alike (Cut image length) (UInt64 × Address)
      (EncodedName.readLength (image.truncate length) name shift filled cursor)
      (EncodedName.readLength image name shift filled cursor) := by
  rw [EncodedName.readLength, EncodedName.readLength.eq_def image]
  apply carried_alike.bind
    (alike_mapError (image.readUInt8_truncate length cursor) (cut_memory image length))
  intro byte
  dsimp only
  split
  · exact .inl rfl
  · split
    · exact readLength_truncate name (shift + 7) _ (cursor + 1)
    · exact .inl rfl
termination_by EncodedName.lengthBits - shift

theorem readName_truncate : Alike (Cut image length) EncodedName
    (EncodedName.read (image.truncate length) address) (EncodedName.read image address) := by
  rw [EncodedName.read, EncodedName.read]
  split
  · exact .inl rfl
  apply carried_alike.bind
    (alike_mapError (image.readUInt8_truncate length address) (cut_memory image length))
  intro flags
  apply carried_alike.bind (readLength_truncate image length address _ _ _)
  intro spelled
  exact carried_alike.bind (alike_mapError (image.readText_truncate length _ _)
    (cut_name image length address)) fun _ => .inl rfl

theorem readRows_truncate {α : Type} {short whole : Address → Except DescriptorFault α}
    (each : ∀ row, Alike (Cut image length) α (short row) (whole row)) (stride count : Nat)
    (table : Address) : Alike (Cut image length) (List α) (readRows short stride count table)
      (readRows whole stride count table) :=
  carried_list carried_alike (fun _ => each _) _

theorem readTable_truncate {α : Type} {short whole : Address → Except DescriptorFault α}
    (each : ∀ row, Alike (Cut image length) α (short row) (whole row)) (stride : Nat)
    (descriptor : Address) (referent : Referent) : Alike (Cut image length) (List α)
      (readTable (image.truncate length) short stride descriptor referent)
      (readTable image whole stride descriptor referent) := by
  apply carried_alike.bind (readPointer_truncate image length _)
  intro table
  apply carried_alike.bind (readCount_truncate image length _)
  intro count
  dsimp only
  split
  · exact .inl rfl
  · exact readRows_truncate image length each _ _ _

variable (sectionBase : Address)

theorem readCounts_truncate (pkgPath : Option String) : Alike (Cut image length) Uncommon
    (readCounts (image.truncate length) address pkgPath) (readCounts image address pkgPath) := by
  apply carried_alike.bind (readHalf_truncate image length _)
  intro methodCount
  apply carried_alike.bind (readHalf_truncate image length _)
  intro exportedCount
  exact carried_build carried_alike
    (alike_mapError (image.readUInt32_truncate length _) (cut_memory image length)) _

theorem readUncommon_truncate : Alike (Cut image length) Uncommon
    (readUncommon (image.truncate length) sectionBase address)
    (readUncommon image sectionBase address) := by
  rw [readUncommon_eq, readUncommon_eq]
  apply carried_alike.bind (readOffset_truncate image length _)
  intro pathOffset
  split
  · exact readCounts_truncate image length address none
  · exact carried_alike.bind (readName_truncate image length _)
      fun _ => readCounts_truncate image length address _

theorem readMethod_truncate : Alike (Cut image length) Method
    (readMethod (image.truncate length) sectionBase address)
    (readMethod image sectionBase address) := by
  apply carried_alike.bind (readOffset_truncate image length _)
  intro nameOffset
  apply carried_alike.bind (readOffset_truncate image length _)
  intro typeOffset
  exact carried_build carried_alike (readName_truncate image length _) _

theorem readMethods_truncate (uncommon : Uncommon) : Alike (Cut image length) (List Method)
    (readMethods (image.truncate length) sectionBase address uncommon)
    (readMethods image sectionBase address uncommon) := by
  rw [readMethods, readMethods]
  split
  · exact .inl rfl
  · exact readRows_truncate image length (readMethod_truncate image length · sectionBase) _ _ _

theorem readField_truncate : Alike (Cut image length) StructField
    (readField (image.truncate length) address) (readField image address) := by
  apply carried_alike.bind (readPointer_truncate image length _)
  intro nameAddress
  apply carried_alike.bind (readName_truncate image length _)
  intro name
  apply carried_alike.bind (readRef_truncate image length _ _)
  intro type
  exact carried_build carried_alike (readWord_truncate image length _) _

theorem readFunc_truncate (layout : DescriptorLayout) (hasBlock : Bool) :
    Alike (Cut image length) Shape (readFunc (image.truncate length) layout address hasBlock)
      (readFunc image layout address hasBlock) := by
  have rows (referent : Referent) := readRows_truncate image length
    (readRef_truncate image length · referent) 8
  apply carried_alike.bind (readHalf_truncate image length _)
  intro parameterCount
  apply carried_alike.bind (readHalf_truncate image length _)
  intro resultWord
  apply carried_alike.bind (rows .parameter _ _)
  intro params
  exact carried_build carried_alike (rows .result _ _) _

theorem readShape_truncate (layout : DescriptorLayout) (kind : Kind) (uncommon : Option Uncommon) :
    Alike (Cut image length) Shape
      (readShape (image.truncate length) layout sectionBase address kind uncommon)
      (readShape image layout sectionBase address kind uncommon) := by
  have reference (place : Address) (referent : Referent) :=
    readRef_truncate image length place referent
  have methods := readMethod_truncate image length
  cases kind with
  | pointer | slice => exact carried_build carried_alike (reference _ _) _
  | array =>
      apply carried_alike.bind (reference _ _)
      intro elem
      exact carried_build carried_alike (readWord_truncate image length _) _
  | chan =>
      apply carried_alike.bind (readWord_truncate image length _)
      intro bits
      split
      · exact .inl rfl
      · exact carried_build carried_alike (reference _ _) _
  | map =>
      apply carried_alike.bind (reference _ _)
      intro key
      exact carried_build carried_alike (reference _ _) _
  | func => exact readFunc_truncate image length address layout _
  | struct =>
      apply carried_alike.bind
        (readTable_truncate image length (readField_truncate image length) _ _ _)
      intro fields
      cases uncommon with
      | none => exact .inl rfl
      | some block =>
          exact carried_build carried_alike
            (readMethods_truncate image length _ sectionBase block) _
  | interface =>
      exact carried_build carried_alike
        (readTable_truncate image length (methods · sectionBase) _ _ _) _
  | _ => exact .inl rfl

theorem decode_truncate (layout : DescriptorLayout) : Alike (Cut image length) RuntimeType
    (decode (image.truncate length) layout sectionBase address)
    (decode image layout sectionBase address) := by
  rw [decode, decode]
  split
  · exact .inl rfl
  split
  · exact .inl rfl
  apply carried_alike.bind (readWord_truncate image length _)
  intro size
  apply carried_alike.bind (readByte_truncate image length _)
  intro flagByte
  apply carried_alike.bind (readByte_truncate image length _)
  intro kindByte
  dsimp only
  split
  · exact .inl rfl
  apply carried_alike.bind (readOffset_truncate image length _)
  intro textOffset
  apply carried_alike.bind (readName_truncate image length _)
  intro text
  split
  · apply carried_alike.bind
      (alike_map (readUncommon_truncate image length _ sectionBase) some)
    intro uncommon
    exact carried_build carried_alike (readShape_truncate image length address sectionBase _ _ _) _
  · exact carried_build carried_alike (readShape_truncate image length address sectionBase _ _ _) _

end Readers

theorem ofImage_truncate (image : Image) (length : Nat) (layout : DescriptorLayout)
    (sections : List Address) (address : Address) :
    Alike (Cut image length) RuntimeType
      (Resolver.ofImage (image.truncate length) layout sections address)
      (Resolver.ofImage image layout sections address) := by
  rw [Resolver.ofImage, Resolver.ofImage]
  split
  · exact .inl rfl
  · exact decode_truncate image length address _ layout

/-- The beginning of an image resolves an address as the whole image does, or tells of a read that
was cut off. It never resolves it to another descriptor. -/
theorem truncated_image_resolves_alike (image : Image) (length : Nat) (layout : DescriptorLayout)
    (sections : List Address) (address : Address) :
    Alike (Cut image length) RuntimeType
        (Resolver.ofImage (image.truncate length) layout sections address)
        (Resolver.ofImage image layout sections address) ∧
      ∀ type, Resolver.ofImage (image.truncate length) layout sections address = .ok type →
        Resolver.ofImage image layout sections address = .ok type := by
  have alike := ofImage_truncate image length layout sections address
  refine ⟨alike, ?_⟩
  intro type resolved
  rcases alike with same | ⟨fault, failed, _⟩
  · exact same ▸ resolved
  · exact absurd (failed.symm.trans resolved) (by simp)

/-- Cut off within the text of its runtime string, the descriptor has an unreadable name. -/
example : Resolver.ofImage (pairImage.truncate 160) .buckets [⟨4096⟩] ⟨4096⟩ =
    .error (.invalidName ⟨4248⟩ (.unreadable (.outOfBounds ⟨4250⟩))) := by
  decide +kernel

end RuntimeType

end TypeAtlas
