import TypeAtlas.Descriptor.EncodedName
import TypeAtlas.Proofs.Memory.Bytes
import TypeAtlas.Proofs.Text.Utf8

/-!
Encoded names are read back, whatever stands around them: the groups spell the length of the text,
and the text follows them.
-/

namespace TypeAtlas

set_option autoImplicit false

namespace EncodedName

/-- More groups than these are refused, so no length reaches 2 ^ 35. -/
def maxGroups : Nat := 5

/-- The groups spell the length, the lowest one first. All but the last say that more follow. -/
inductive SpellsLength : List UInt8 → Nat → Prop where
  | last {byte : UInt8} : byte < 0x80 → SpellsLength [byte] byte.toNat
  | more {byte : UInt8} {groups : List UInt8} {higher : Nat} :
      ¬byte < 0x80 → SpellsLength groups higher →
        SpellsLength (byte :: groups) (byte.toNat % 128 + 128 * higher)

/-- The fewest groups that spell a length. -/
def lengthGroups (length : Nat) : List UInt8 :=
  if length < 128 then [UInt8.ofNat length]
  else UInt8.ofNat (length % 128 + 128) :: lengthGroups (length / 128)

theorem lengthGroups_spell (length : Nat) : SpellsLength (lengthGroups length) length := by
  induction length using lengthGroups.induct with
  | case1 length small =>
      have whole := UInt8.toNat_ofNat_of_lt' (show length < 256 by omega)
      have low : UInt8.ofNat length < 0x80 :=
        (UInt8.ofNat_lt_iff_lt (show length < 256 by omega) (by decide)).mpr small
      rw [lengthGroups, if_pos small]
      simpa [whole] using SpellsLength.last low
  | case2 length large ih =>
      have byte : length % 128 + 128 < 256 := by omega
      have whole := UInt8.toNat_ofNat_of_lt' byte
      have spelled := SpellsLength.more (Text.Utf8.high_lead (by omega) byte) ih
      have same : (length % 128 + 128) % 128 + 128 * (length / 128) = length := by omega
      rw [whole, same] at spelled
      rw [lengthGroups, if_neg large]
      exact spelled

theorem lengthGroups_fits (groups length : Nat) (fits : length < 128 ^ (groups + 1)) :
    (lengthGroups length).length ≤ groups + 1 := by
  induction groups generalizing length with
  | zero =>
      have small : length < 128 := by simpa using fits
      rw [lengthGroups, if_pos small]
      simp
  | succ groups ih =>
      rw [lengthGroups]
      split
      · simp
      · have fewer : length / 128 < 128 ^ (groups + 1) := by
          rw [Nat.div_lt_iff_lt_mul (by omega), ← Nat.pow_succ]
          exact fits
        simpa using ih (length / 128) fewer

theorem spelled_filled {groups : List UInt8} {length : Nat} (spelled : SpellsLength groups length) :
    0 < groups.length := by
  cases spelled <;> simp

/-! ### One group -/

theorem group_ends_iff (byte : UInt8) : byte &&& 0x80 = 0 ↔ byte < 0x80 := by
  have each : ∀ number < 256,
      UInt8.ofNat number &&& 0x80 = 0 ↔ UInt8.ofNat number < 0x80 := by
    decide +kernel
  have own := each byte.toNat byte.toNat_lt
  rwa [UInt8.ofNat_toNat] at own

theorem toNat_group (byte : UInt8) : (byte &&& 0x7F).toNat = byte.toNat % 128 := by
  rw [UInt8.toNat_and]
  exact Nat.and_two_pow_sub_one_eq_mod byte.toNat 7

theorem last_group_whole {byte : UInt8} (low : byte < 0x80) : byte.toNat % 128 = byte.toNat :=
  Nat.mod_eq_of_lt (UInt8.lt_iff_toNat_lt.mp low)

/-- What the groups before `byte` have filled, and the bits of `byte` right above it. -/
def filledBy (length : UInt64) (shift : Nat) (byte : UInt8) : UInt64 :=
  length ||| (byte &&& 0x7F).toUInt64 <<< UInt64.ofNat shift

/-- A group has no bit in common with the length filled so far, and none beyond a word. -/
theorem toNat_filledBy {length : UInt64} {shift : Nat} (below : length.toNat < 2 ^ shift)
    (inside : shift + 7 ≤ 64) (byte : UInt8) :
    (filledBy length shift byte).toNat = length.toNat + 2 ^ shift * (byte.toNat % 128) := by
  have place : (UInt64.ofNat shift).toNat % 64 = shift := by
    rw [UInt64.toNat_ofNat']
    omega
  have group : byte.toNat % 128 < 2 ^ 7 := Nat.mod_lt _ (by decide)
  have fits : byte.toNat % 128 * 2 ^ shift < 2 ^ 64 := by
    calc byte.toNat % 128 * 2 ^ shift
        < 2 ^ 7 * 2 ^ shift := Nat.mul_lt_mul_of_pos_right group (Nat.two_pow_pos shift)
      _ = 2 ^ (7 + shift) := (Nat.pow_add 2 7 shift).symm
      _ ≤ 2 ^ 64 := Nat.pow_le_pow_right (by decide) (by omega)
  have apart := Nat.two_pow_add_eq_or_of_lt below (byte.toNat % 128)
  rw [filledBy, UInt64.toNat_or, UInt64.toNat_shiftLeft, UInt8.toNat_toUInt64, toNat_group, place,
    Nat.shiftLeft_eq, Nat.mod_eq_of_lt fits, Nat.mul_comm _ (2 ^ shift), Nat.or_comm, ← apart,
    Nat.add_comm]

theorem filledBy_lt {length : UInt64} {shift : Nat} (below : length.toNat < 2 ^ shift)
    (inside : shift + 7 ≤ 64) (byte : UInt8) :
    (filledBy length shift byte).toNat < 2 ^ (shift + 7) := by
  have group : byte.toNat % 128 + 1 ≤ 2 ^ 7 := Nat.mod_lt _ (by decide)
  calc (filledBy length shift byte).toNat
      = length.toNat + 2 ^ shift * (byte.toNat % 128) := toNat_filledBy below inside byte
    _ < 2 ^ shift * (byte.toNat % 128 + 1) := by
        rw [Nat.mul_add, Nat.mul_one, Nat.add_comm]
        exact Nat.add_lt_add_left below _
    _ ≤ 2 ^ shift * 2 ^ 7 := Nat.mul_le_mul_left _ group
    _ = 2 ^ (shift + 7) := (Nat.pow_add 2 shift 7).symm

section Rounds

variable {image : Image} {name cursor : Address} {shift : Nat} {length : UInt64}

/-- The bits below `shift` are filled, and above them is room for so many groups. -/
structure Room (rounds shift : Nat) (length : UInt64) : Prop where
  left : shift + 7 * rounds = lengthBits
  below : length.toNat < 2 ^ shift

theorem room_at_start : Room maxGroups 0 0 := ⟨rfl, by decide⟩

theorem room_after {rounds : Nat} (room : Room (rounds + 1) shift length) (byte : UInt8) :
    Room rounds (shift + 7) (filledBy length shift byte) := by
  have left : shift + 7 * (rounds + 1) = 35 := room.left
  refine ⟨?_, filledBy_lt room.below (by omega) byte⟩
  show shift + 7 + 7 * rounds = 35
  omega

theorem toNat_filledBy_of_room {rounds : Nat} (room : Room (rounds + 1) shift length)
    (byte : UInt8) : (filledBy length shift byte).toNat =
      length.toNat + 2 ^ shift * (byte.toNat % 128) := by
  have left : shift + 7 * (rounds + 1) = 35 := room.left
  exact toNat_filledBy room.below (by omega) byte

/-! ### One round

What a round comes to, by what stands at the cursor. -/

theorem readLength_missing {fault : MemoryFault} (missing : image.readUInt8 cursor = .error fault) :
    readLength image name shift length cursor = .error (.memory fault) := by
  rw [readLength, missing]
  rfl

theorem readLength_last {byte : UInt8} (low : byte < 0x80)
    (read : image.readUInt8 cursor = .ok byte) :
    readLength image name shift length cursor =
      .ok (filledBy length shift byte, cursor + 1) := by
  rw [readLength, read]
  simp [(group_ends_iff byte).mpr low, filledBy, mapError_ok, bind, Except.bind, pure, Except.pure]

theorem readLength_more {byte : UInt8} {rounds : Nat} (high : ¬byte < 0x80)
    (room : Room (rounds + 1) shift length) (more : 0 < rounds)
    (read : image.readUInt8 cursor = .ok byte) :
    readLength image name shift length cursor =
      readLength image name (shift + 7) (filledBy length shift byte) (cursor + 1) := by
  have left : shift + 7 * (rounds + 1) = lengthBits := room.left
  have further : shift + 7 < lengthBits := by omega
  rw [readLength, read]
  simp [mt (group_ends_iff byte).mp high, further, filledBy, mapError_ok, bind, Except.bind]

theorem readLength_refused {byte : UInt8} (high : ¬byte < 0x80) (room : Room 1 shift length)
    (read : image.readUInt8 cursor = .ok byte) :
    readLength image name shift length cursor = .error (.invalidName name .lengthTooLong) := by
  have left : shift + 7 * 1 = lengthBits := room.left
  have full : ¬shift + 7 < lengthBits := by omega
  rw [readLength, read]
  simp [mt (group_ends_iff byte).mp high, full, mapError_ok, bind, Except.bind, throw, throwThe,
    MonadExceptOf.throw]

/-! ### All rounds -/

/-- The groups add to what has been filled the length that they spell, shifted. -/
theorem readLength_of_offers {groups : List UInt8} {spelledLength rounds : Nat}
    (spelled : SpellsLength groups spelledLength) (few : groups.length ≤ rounds)
    (room : Room rounds shift length) (offers : image.Offers cursor groups) :
    ∃ total : UInt64, total.toNat = length.toNat + 2 ^ shift * spelledLength ∧
      readLength image name shift length cursor =
        .ok (total, cursor + UInt64.ofNat groups.length) := by
  induction spelled generalizing rounds shift length cursor with
  | @last byte low =>
      cases rounds with
      | zero => simp at few
      | succ rounds =>
          have value := toNat_filledBy_of_room room byte
          rw [last_group_whole low] at value
          exact ⟨_, value, readLength_last low offers.1⟩
  | @more byte groups higher high spelled ih =>
      cases rounds with
      | zero => simp at few
      | succ rounds =>
          have filled := spelled_filled spelled
          rw [List.length_cons] at few
          obtain ⟨total, sum, later⟩ := ih (by omega) (room_after room byte) offers.2
          refine ⟨total, ?_, ?_⟩
          · rw [sum, toNat_filledBy_of_room room byte, Nat.pow_add, Nat.mul_assoc, Nat.add_assoc,
              ← Nat.mul_add]
          · rw [readLength_more high room (by omega) offers.1, later, List.length_cons,
              add_ofNat_succ]

end Rounds

variable {image : Image} {address : Address}

/-- The text of a name is read from right behind its length. If it has no bytes, that place still
has to lie below the top of the address space. -/
theorem read_of_holds {flagByte : UInt8} {groups : List UInt8} {text : String}
    (present : address.isNull = false) (spelled : SpellsLength groups text.utf8ByteSize)
    (few : groups.length ≤ maxGroups)
    (holds : image.Holds address (flagByte :: groups ++ Text.Utf8.encode text))
    (reached : text = "" → address.val.toNat + groups.length + 1 < 2 ^ 64) :
    read image address = .ok ⟨.ofByte flagByte, text⟩ := by
  have filled := spelled_filled spelled
  have inside : address.val.toNat + groups.length + 1 < 2 ^ 64 := by
    by_cases blank : text = ""
    · exact reached blank
    · obtain ⟨_, _, _, _, within⟩ := holds
      have bytes : 0 < (Text.Utf8.encode text).length := by
        rw [Text.Utf8.length_encode, Nat.pos_iff_ne_zero, ne_eq, String.utf8ByteSize_eq_zero_iff]
        exact blank
      simp only [List.length_append, List.length_cons] at within
      omega
  have split : image.Holds address ([flagByte] ++ (groups ++ Text.Utf8.encode text)) := holds
  have first : image.HoldsByte address flagByte := Image.holds_left split
  have behind : image.Holds (address + 1) (groups ++ Text.Utf8.encode text) := by
    apply Image.holds_right split
    simp only [List.length_cons, List.length_nil]
    omega
  have offers : image.Offers (address + 1) groups := Image.offers_of_holds (Image.holds_left behind)
  obtain ⟨total, sum, length⟩ :=
    @readLength_of_offers _ address _ _ _ _ _ _ spelled few room_at_start offers
  have whole : total.toNat = text.utf8ByteSize := by simpa using sum
  have last : image.Holds (address + 1 + UInt64.ofNat groups.length)
      (Text.Utf8.encode text) := by
    apply Image.holds_right behind
    have next : (address + 1).val.toNat = address.val.toNat + 1 :=
      @Image.toNat_add_ofNat address 1 (by omega)
    omega
  have bytes := Image.read_of_holds last
  rw [Text.Utf8.length_encode] at bytes
  simp [read, present, Image.readUInt8_of_holds first, length, whole, Image.readText, bytes,
    Text.Utf8.decode_encode, mapError_ok, bind, Except.bind, pure, Except.pure]

end EncodedName

end TypeAtlas
