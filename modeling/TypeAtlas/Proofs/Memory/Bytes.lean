import Mathlib.Algebra.Order.Group.Nat
import TypeAtlas.Memory.Image

/-!
What an image holds. Bytes stand in an image at the places that their address says, and a read
there gives them back, as bytes or as the number that they spell.
-/

namespace TypeAtlas

set_option autoImplicit false

theorem mapError_ok {ε δ α : Type} (describe : ε → δ) (value : α) :
    (Except.ok value : Except ε α).mapError describe = .ok value :=
  rfl

/-- The `width` lowest bytes of a number, least significant first. -/
def spell : Nat → Nat → List UInt8
  | 0, _ => []
  | width + 1, number => UInt8.ofNat (number % 256) :: spell width (number / 256)

theorem length_spell (width number : Nat) : (spell width number).length = width := by
  induction width generalizing number with
  | zero => rfl
  | succ width ih => simp [spell, ih]

theorem littleEndian_spell (width number : Nat) :
    littleEndian (spell width number) = number % 256 ^ width := by
  induction width generalizing number with
  | zero => simp [spell, littleEndian, Nat.mod_one]
  | succ width ih =>
      have byte : (UInt8.ofNat (number % 256)).toNat = number % 256 := by
        simp
      rw [spell, littleEndian, ih, byte, Nat.pow_succ', Nat.mod_mul]

theorem add_ofNat_add (address : Address) (left right : Nat) :
    address + UInt64.ofNat (left + right) =
      address + UInt64.ofNat left + UInt64.ofNat right := by
  show Address.mk (address.val + UInt64.ofNat (left + right)) =
    Address.mk (address.val + UInt64.ofNat left + UInt64.ofNat right)
  rw [UInt64.ofNat_add, UInt64.add_assoc]

theorem add_ofNat_zero (address : Address) : address + UInt64.ofNat 0 = address := by
  show Address.mk (address.val + 0) = address
  simp

theorem add_ofNat_succ (address : Address) (count : Nat) :
    address + UInt64.ofNat (count + 1) = address + 1 + UInt64.ofNat count := by
  rw [Nat.add_comm, add_ofNat_add]
  rfl

namespace Image

/-- The bytes stand in the image from the address upwards, all of them below the top of the
address space. -/
def Holds (image : Image) (address : Address) (bytes : List UInt8) : Prop :=
  ∃ before after, image.bytes.toList = before ++ bytes ++ after ∧
    image.base.val.toNat + before.length = address.val.toNat ∧
      address.val.toNat + bytes.length ≤ 2 ^ 64

variable {image : Image} {address : Address}

theorem position_of_holds {bytes : List UInt8} (holds : image.Holds address bytes) :
    image.Covers address bytes.length ∧
      ∃ before after, image.bytes.toList = before ++ bytes ++ after ∧
        image.position address = before.length := by
  obtain ⟨before, after, shape, place, _⟩ := holds
  have size : image.bytes.size = before.length + bytes.length + after.length := by
    rw [← Array.length_toList, shape, List.length_append, List.length_append]
  have position : image.position address = before.length := by
    unfold Image.position
    omega
  refine ⟨⟨?_, by omega⟩, before, after, shape, position⟩
  show image.base.val ≤ address.val
  rw [UInt64.le_iff_toNat_le]
  omega

theorem holds_iff (image : Image) (address : Address) (bytes : List UInt8) :
    image.Covers address bytes.length ∧ address.val.toNat + bytes.length ≤ 2 ^ 64 ∧
      bytes <+: image.bytes.toList.drop (image.position address) ↔ image.Holds address bytes := by
  constructor
  · intro stands
    obtain ⟨⟨below, covered⟩, within, after, rest⟩ := stands
    have place : image.base.val.toNat ≤ address.val.toNat := UInt64.le_iff_toNat_le.mp below
    refine ⟨image.bytes.toList.take (image.position address), after, ?_, ?_, within⟩
    · rw [List.append_assoc, rest, List.take_append_drop]
    · have size : image.bytes.toList.length = image.bytes.size := Array.length_toList
      rw [List.length_take, size]
      unfold Image.position at covered ⊢
      omega
  · intro holds
    obtain ⟨covered, before, after, shape, position⟩ := position_of_holds holds
    obtain ⟨_, _, _, _, within⟩ := holds
    refine ⟨covered, within, after, ?_⟩
    simp [shape, position]

instance (image : Image) (address : Address) (bytes : List UInt8) :
    Decidable (image.Holds address bytes) :=
  decidable_of_iff _ (holds_iff image address bytes)

theorem read_of_holds {bytes : List UInt8} (holds : image.Holds address bytes) :
    image.read address bytes.length = .ok bytes := by
  obtain ⟨covered, before, after, shape, position⟩ := position_of_holds holds
  rw [Image.read, if_pos covered, position]
  simp [Array.toList_extract, shape]

theorem holds_left {left right : List UInt8} (holds : image.Holds address (left ++ right)) :
    image.Holds address left := by
  obtain ⟨before, after, shape, place, within⟩ := holds
  rw [List.length_append] at within
  exact ⟨before, right ++ after, by simp [shape], place, by omega⟩

theorem holds_append {base : Address} {front bytes : List UInt8}
    (holds : Holds ⟨base, front.toArray⟩ address bytes) (rest : List UInt8) :
    Holds ⟨base, (front ++ rest).toArray⟩ address bytes := by
  obtain ⟨before, after, shape, place, within⟩ := holds
  have longer : front ++ rest = before ++ bytes ++ (after ++ rest) := by
    rw [← List.append_assoc, ← shape]
  exact ⟨before, after ++ rest, longer, place, within⟩

theorem toNat_add_ofNat {distance : Nat} (inside : address.val.toNat + distance < 2 ^ 64) :
    (address + UInt64.ofNat distance).val.toNat = address.val.toNat + distance := by
  show (address.val + UInt64.ofNat distance).toNat = _
  rw [UInt64.toNat_add, UInt64.toNat_ofNat']
  omega

/-- What comes later stands further up, unless that is beyond the top of the address space. -/
theorem holds_right {left right : List UInt8} (holds : image.Holds address (left ++ right))
    (inside : address.val.toNat + left.length < 2 ^ 64) :
    image.Holds (address + UInt64.ofNat left.length) right := by
  obtain ⟨before, after, shape, place, within⟩ := holds
  rw [List.length_append] at within
  refine ⟨before ++ left, after, by simp [shape], ?_, ?_⟩
  · rw [toNat_add_ofNat inside, List.length_append]
    omega
  · rw [toNat_add_ofNat inside]
    omega

section Numbers

theorem readNat_of_holds {width number : Nat} (holds : image.Holds address (spell width number))
    (fits : number < 256 ^ width) : image.readNat address width = .ok number := by
  have read := read_of_holds holds
  rw [length_spell] at read
  rw [Image.readNat, read]
  simp [Except.map, littleEndian_spell, Nat.mod_eq_of_lt fits]

/-- One byte at the address. -/
def HoldsByte (image : Image) (address : Address) (byte : UInt8) : Prop :=
  image.Holds address [byte]

def HoldsHalf (image : Image) (address : Address) (half : UInt16) : Prop :=
  image.Holds address (spell 2 half.toNat)

def HoldsUInt32 (image : Image) (address : Address) (word : UInt32) : Prop :=
  image.Holds address (spell 4 word.toNat)

def HoldsWord (image : Image) (address : Address) (word : UInt64) : Prop :=
  image.Holds address (spell 8 word.toNat)

/-- Four bytes in two's complement. -/
def HoldsInt32 (image : Image) (address : Address) (offset : Int32) : Prop :=
  image.HoldsUInt32 address offset.toUInt32

instance (image : Image) (address : Address) (byte : UInt8) :
    Decidable (image.HoldsByte address byte) :=
  inferInstanceAs (Decidable (image.Holds address [byte]))

instance (image : Image) (address : Address) (half : UInt16) :
    Decidable (image.HoldsHalf address half) :=
  inferInstanceAs (Decidable (image.Holds address _))

instance (image : Image) (address : Address) (word : UInt32) :
    Decidable (image.HoldsUInt32 address word) :=
  inferInstanceAs (Decidable (image.Holds address _))

instance (image : Image) (address : Address) (word : UInt64) :
    Decidable (image.HoldsWord address word) :=
  inferInstanceAs (Decidable (image.Holds address _))

instance (image : Image) (address : Address) (offset : Int32) :
    Decidable (image.HoldsInt32 address offset) :=
  inferInstanceAs (Decidable (image.HoldsUInt32 address _))

theorem readUInt8_of_holds {byte : UInt8} (holds : image.HoldsByte address byte) :
    image.readUInt8 address = .ok byte := by
  have read : image.read address 1 = .ok [byte] := read_of_holds holds
  rw [Image.readUInt8, Image.readNat, read]
  simp [Except.map, littleEndian]

/-- The bytes can be read one by one from the address upwards. -/
def Offers (image : Image) : Address → List UInt8 → Prop
  | _, [] => True
  | cursor, byte :: bytes => image.readUInt8 cursor = .ok byte ∧ image.Offers (cursor + 1) bytes

theorem offers_of_holds {bytes : List UInt8} (holds : image.Holds address bytes) :
    image.Offers address bytes := by
  induction bytes generalizing address with
  | nil => trivial
  | cons byte bytes ih =>
      have split : image.Holds address ([byte] ++ bytes) := holds
      refine ⟨readUInt8_of_holds (holds_left split), ?_⟩
      cases bytes with
      | nil => trivial
      | cons next bytes =>
          obtain ⟨_, _, _, _, within⟩ := holds
          simp only [List.length_cons] at within
          apply ih
          apply holds_right split
          simp only [List.length_cons, List.length_nil]
          omega

theorem readUInt16_of_holds {half : UInt16} (holds : image.HoldsHalf address half) :
    image.readUInt16 address = .ok half := by
  rw [Image.readUInt16, readNat_of_holds holds half.toNat_lt]
  simp [Except.map]

theorem readUInt32_of_holds {word : UInt32} (holds : image.HoldsUInt32 address word) :
    image.readUInt32 address = .ok word := by
  rw [Image.readUInt32, readNat_of_holds holds word.toNat_lt]
  simp [Except.map]

theorem readUInt64_of_holds {word : UInt64} (holds : image.HoldsWord address word) :
    image.readUInt64 address = .ok word := by
  rw [Image.readUInt64, readNat_of_holds holds word.toNat_lt]
  simp [Except.map]

theorem readInt32_of_holds {offset : Int32} (holds : image.HoldsInt32 address offset) :
    image.readInt32 address = .ok offset := by
  rw [Image.readInt32, readUInt32_of_holds holds]
  simp [Except.map]

theorem readAddress_of_holds {target : Address} (holds : image.HoldsWord address target.val) :
    image.readAddress address = .ok target := by
  rw [Image.readAddress, readUInt64_of_holds holds]
  simp [Except.map]

end Numbers

end Image

end TypeAtlas
