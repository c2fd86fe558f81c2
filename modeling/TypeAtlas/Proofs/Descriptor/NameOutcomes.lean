import Mathlib.Data.Nat.Digits.Defs
import TypeAtlas.Proofs.Descriptor.Names
import TypeAtlas.Proofs.Memory.Boundaries
import TypeAtlas.Proofs.Text.Decoding

/-!
What reading a name comes to, for every image and every address but the null one. It takes the
byte of flags and then groups up to the first that does not say that more follow. What is missing,
does not end in time or is no UTF-8 is reported as such; otherwise the length is the sum of the
groups, each shifted by seven bits more than the one before, and the text has that many bytes.
-/

namespace TypeAtlas

set_option autoImplicit false

/-- The bytes of the buffer that stand at an address. -/
def Image.stretch (image : Image) (address : Address) (length : Nat) : List UInt8 :=
  (image.bytes.toList.drop (image.position address)).take length

namespace EncodedName

/-- The group says that more follow. -/
def Continues (group : UInt8) : Prop := group &&& 0x80 ≠ 0

/-- The groups end with the first that does not say that more follow. -/
def Ended (groups : List UInt8) : Prop :=
  ∃ earlier last, groups = earlier ++ [last] ∧ (∀ group ∈ earlier, Continues group) ∧
    ¬Continues last

/-- The low seven bits of the groups as digits to base 128, the lowest one first. -/
def lengthOf (groups : List UInt8) : Nat :=
  Nat.ofDigits 128 (groups.map fun group => (group &&& 0x7F).toNat)

/-- Flags and a length stand at the address. -/
structure LengthAt (image : Image) (address : Address) (flagByte : UInt8) (groups : List UInt8)
    (length : Nat) : Prop where
  offered : image.Offers address (flagByte :: groups)
  ended : Ended groups
  few : groups.length ≤ maxGroups
  sum : length = lengthOf groups
  bounded : length < 2 ^ 35

/-- Flags stand at the address, and groups that all say that more follow. -/
structure UnendedAt (image : Image) (address : Address) (flagByte : UInt8)
    (groups : List UInt8) : Prop where
  offered : image.Offers address (flagByte :: groups)
  continued : ∀ group ∈ groups, Continues group

/-- The place behind flags and groups. -/
def behind (address : Address) (groups : List UInt8) : Address :=
  address + UInt64.ofNat (groups.length + 1)

/-- The flags that are known, each with its bit. -/
def knownFlags (flagByte : UInt8) : NameFlags where
  exported := flagByte &&& 0x01 ≠ 0
  tagged := flagByte &&& 0x02 ≠ 0
  packaged := flagByte &&& 0x04 ≠ 0
  embedded := flagByte &&& 0x08 ≠ 0

/-- What stands at the address of a name, and what reading it comes to. -/
inductive Outcome (image : Image) (address : Address) :
    Except DescriptorFault EncodedName → Prop where
  | flagsMissing : ¬image.Covers address 1 →
      Outcome image address (.error (.memory (.outOfBounds address)))
  | groupMissing {flagByte : UInt8} {groups : List UInt8} :
      UnendedAt image address flagByte groups → groups.length < maxGroups →
        ¬image.Covers (behind address groups) 1 →
          Outcome image address (.error (.memory (.outOfBounds (behind address groups))))
  | lengthTooLong {flagByte : UInt8} {groups : List UInt8} :
      UnendedAt image address flagByte groups → groups.length = maxGroups →
        Outcome image address (.error (.invalidName address .lengthTooLong))
  | textMissing {flagByte : UInt8} {groups : List UInt8} {length : Nat} :
      LengthAt image address flagByte groups length →
        ¬image.Covers (behind address groups) length →
          Outcome image address
            (.error (.invalidName address (.unreadable (.outOfBounds (behind address groups)))))
  | textMalformed {flagByte : UInt8} {groups : List UInt8} {length : Nat}
      {fault : Text.Utf8.Fault} :
      LengthAt image address flagByte groups length →
        image.Covers (behind address groups) length →
          (∀ text, image.stretch (behind address groups) length ≠ Text.Utf8.encode text) →
            Text.Utf8.decode (image.stretch (behind address groups) length) = .error fault →
              Outcome image address (.error
                (.invalidName address (.unreadable (.invalidText (behind address groups) fault))))
  | read {flagByte : UInt8} {groups : List UInt8} {length : Nat} {text : String} :
      LengthAt image address flagByte groups length →
        image.Covers (behind address groups) length →
          image.stretch (behind address groups) length = Text.Utf8.encode text →
            Outcome image address (.ok ⟨knownFlags flagByte, text⟩)

theorem knownFlags_eq (flagByte : UInt8) : knownFlags flagByte = .ofByte flagByte := by
  have each : ∀ number < 256,
      knownFlags (UInt8.ofNat number) = .ofByte (UInt8.ofNat number) := by
    decide +kernel
  have own := each flagByte.toNat flagByte.toNat_lt
  rwa [UInt8.ofNat_toNat] at own

/-! ### Lengths -/

theorem continues_iff (group : UInt8) : Continues group ↔ ¬group < 0x80 :=
  not_congr (group_ends_iff group)

theorem lengthOf_cons (group : UInt8) (groups : List UInt8) :
    lengthOf (group :: groups) = group.toNat % 128 + 128 * lengthOf groups := by
  unfold lengthOf
  rw [List.map_cons, Nat.ofDigits_cons, toNat_group]

theorem spelled_of_ended {groups : List UInt8} (ended : Ended groups) :
    SpellsLength groups (lengthOf groups) := by
  obtain ⟨earlier, last, rfl, continued, final⟩ := ended
  induction earlier with
  | nil =>
      have low : last < 0x80 := not_not.mp (mt (continues_iff last).mpr final)
      rw [List.nil_append, lengthOf_cons, last_group_whole low]
      exact .last low
  | cons group earlier ih =>
      obtain ⟨continues, rest⟩ := List.forall_mem_cons.mp continued
      rw [List.cons_append, lengthOf_cons]
      exact .more ((continues_iff group).mp continues) (ih rest)

theorem ended_of_spelled {groups : List UInt8} {length : Nat}
    (spelled : SpellsLength groups length) : Ended groups ∧ length = lengthOf groups := by
  induction spelled with
  | @last byte low =>
      refine ⟨⟨[], byte, rfl, by simp, fun continues => (continues_iff byte).mp continues low⟩, ?_⟩
      rw [lengthOf_cons, last_group_whole low]
      rfl
  | @more byte groups higher high _ ih =>
      obtain ⟨⟨earlier, last, rfl, continued, final⟩, rfl⟩ := ih
      have continues := (continues_iff byte).mpr high
      exact ⟨⟨byte :: earlier, last, rfl, List.forall_mem_cons.mpr ⟨continues, continued⟩, final⟩,
        (lengthOf_cons _ _).symm⟩

theorem lengthOf_lt {groups : List UInt8} (few : groups.length ≤ maxGroups) :
    lengthOf groups < 2 ^ 35 := by
  have digits : ∀ digit ∈ groups.map fun group => (group &&& 0x7F).toNat, digit < 128 := by
    intro digit member
    obtain ⟨group, _, rfl⟩ := List.mem_map.mp member
    rw [toNat_group]
    exact Nat.mod_lt _ (by decide)
  calc lengthOf groups
      < 128 ^ (groups.map fun group => (group &&& 0x7F).toNat).length :=
        Nat.ofDigits_lt_base_pow_length (by decide) digits
    _ = 128 ^ groups.length := by rw [List.length_map]
    _ ≤ 128 ^ 5 := Nat.pow_le_pow_right (by decide) few
    _ = 2 ^ 35 := by norm_num

/-- The groups add up to the length, and no fewer do. -/
structure Shortest (groups : List UInt8) (length : Nat) : Prop where
  ended : Ended groups
  sum : lengthOf groups = length
  fewest : ∀ other, Ended other → lengthOf other = length → groups.length ≤ other.length

theorem lengthGroups_le {groups : List UInt8} {length : Nat}
    (spelled : SpellsLength groups length) : (lengthGroups length).length ≤ groups.length := by
  induction spelled with
  | @last byte low =>
      have small : byte.toNat < 128 := UInt8.lt_iff_toNat_lt.mp low
      rw [lengthGroups, if_pos small]
      rfl
  | @more byte groups higher high spelled ih =>
      have quotient : (byte.toNat % 128 + 128 * higher) / 128 = higher := by omega
      rw [lengthGroups]
      split
      · simp
      · rw [List.length_cons, List.length_cons, quotient]
        exact Nat.succ_le_succ ih

theorem lengthGroups_shortest (length : Nat) : Shortest (lengthGroups length) length := by
  obtain ⟨ended, sum⟩ := ended_of_spelled (lengthGroups_spell length)
  refine ⟨ended, sum.symm, ?_⟩
  intro other otherEnded same
  rw [← same]
  exact lengthGroups_le (spelled_of_ended otherEnded)

/-! ### What the groups come to -/

section Groups

variable {image : Image} {name cursor : Address} {shift rounds : Nat} {length : UInt64}

theorem readUInt8_of_missing (missing : ¬image.Covers cursor 1) :
    image.readUInt8 cursor = .error (.outOfBounds cursor) := by
  rw [Image.readUInt8, Image.readNat, Image.read, if_neg missing]
  rfl

theorem offered_or_missing (image : Image) (cursor : Address) :
    (∃ byte, image.readUInt8 cursor = .ok byte) ∨ ¬image.Covers cursor 1 := by
  by_cases covers : image.Covers cursor 1
  · have inside : image.position cursor < image.bytes.toList.length := covers.2
    left
    exact ⟨_, Image.readUInt8_eq_ok_iff.mpr ⟨covers.1, List.getElem?_eq_getElem inside⟩⟩
  · exact Or.inr covers

theorem readLength_of_cut {groups : List UInt8} (continued : ∀ group ∈ groups, Continues group)
    (few : groups.length < rounds) (room : Room rounds shift length)
    (offers : image.Offers cursor groups)
    (missing : ¬image.Covers (cursor + UInt64.ofNat groups.length) 1) :
    readLength image name shift length cursor =
      .error (.memory (.outOfBounds (cursor + UInt64.ofNat groups.length))) := by
  induction groups generalizing rounds shift length cursor with
  | nil =>
      rw [List.length_nil, add_ofNat_zero] at missing ⊢
      exact readLength_missing (readUInt8_of_missing missing)
  | cons group groups ih =>
      obtain ⟨continues, rest⟩ := List.forall_mem_cons.mp continued
      rw [List.length_cons] at few
      rw [List.length_cons, add_ofNat_succ] at missing ⊢
      cases rounds with
      | zero => omega
      | succ rounds =>
          rw [readLength_more ((continues_iff group).mp continues) room (by omega) offers.1]
          exact ih rest (by omega) (room_after room group) offers.2 missing

theorem readLength_of_unended {groups : List UInt8}
    (continued : ∀ group ∈ groups, Continues group) (many : groups.length = rounds + 1)
    (room : Room (rounds + 1) shift length) (offers : image.Offers cursor groups) :
    readLength image name shift length cursor = .error (.invalidName name .lengthTooLong) := by
  induction groups generalizing rounds shift length cursor with
  | nil => simp at many
  | cons group groups ih =>
      obtain ⟨continues, rest⟩ := List.forall_mem_cons.mp continued
      have high := (continues_iff group).mp continues
      cases rounds with
      | zero => exact readLength_refused high room offers.1
      | succ rounds =>
          rw [readLength_more high room (Nat.succ_pos rounds) offers.1]
          exact ih rest (by simpa using many) (room_after room group) offers.2

/-- Either the groups end in time, or as many as are read all say that more follow, or one is
missing before. -/
theorem groups_found (image : Image) (rounds : Nat) (cursor : Address) :
    (∃ groups, Ended groups ∧ groups.length ≤ rounds ∧ image.Offers cursor groups) ∨
    (∃ groups : List UInt8, (∀ group ∈ groups, Continues group) ∧ groups.length = rounds ∧
      image.Offers cursor groups) ∨
    ∃ groups : List UInt8, (∀ group ∈ groups, Continues group) ∧ groups.length < rounds ∧
      image.Offers cursor groups ∧ ¬image.Covers (cursor + UInt64.ofNat groups.length) 1 := by
  induction rounds generalizing cursor with
  | zero => exact Or.inr (Or.inl ⟨[], by simp, rfl, trivial⟩)
  | succ rounds ih =>
      rcases offered_or_missing image cursor with ⟨group, offered⟩ | missing
      · by_cases continues : Continues group
        · rcases ih (cursor + 1) with ended | unended | cut
          · obtain ⟨groups, ⟨earlier, last, rfl, continued, final⟩, few, offers⟩ := ended
            left
            refine ⟨group :: (earlier ++ [last]), ?_, Nat.succ_le_succ few, offered, offers⟩
            exact ⟨group :: earlier, last, rfl, List.forall_mem_cons.mpr ⟨continues, continued⟩,
              final⟩
          · obtain ⟨groups, continued, many, offers⟩ := unended
            right; left
            exact ⟨group :: groups, List.forall_mem_cons.mpr ⟨continues, continued⟩,
              congrArg Nat.succ many, offered, offers⟩
          · obtain ⟨groups, continued, few, offers, missing⟩ := cut
            right; right
            refine ⟨group :: groups, List.forall_mem_cons.mpr ⟨continues, continued⟩,
              Nat.succ_lt_succ few, ⟨offered, offers⟩, ?_⟩
            rwa [List.length_cons, add_ofNat_succ]
        · left
          exact ⟨[group], ⟨[], group, rfl, by simp, continues⟩, by simp, offered, trivial⟩
      · right; right
        refine ⟨[], by simp, by simp, trivial, ?_⟩
        rw [List.length_nil, add_ofNat_zero]
        exact missing

end Groups

/-! ### What the name comes to -/

section Names

variable {image : Image} {address : Address}

theorem behind_eq (address : Address) (groups : List UInt8) :
    behind address groups = address + 1 + UInt64.ofNat groups.length :=
  add_ofNat_succ address groups.length

theorem read_stretch {length : Nat} (covers : image.Covers address length) :
    image.read address length = .ok (image.stretch address length) :=
  Image.read_of_covers covers

/-- With the flags and the length read, the text decides. -/
theorem read_of_lengthAt (present : address.isNull = false) {flagByte : UInt8}
    {groups : List UInt8} {length : Nat} (lengthAt : LengthAt image address flagByte groups length) :
    read image address =
      ((image.readText (behind address groups) length).mapError
        fun fault => .invalidName address (.unreadable fault)).map
          fun text => ⟨knownFlags flagByte, text⟩ := by
  have spelled := spelled_of_ended lengthAt.ended
  obtain ⟨total, sum, lengthRead⟩ := @readLength_of_offers _ address _ _ _ _ _ _ spelled
    lengthAt.few room_at_start lengthAt.offered.2
  have whole : total.toNat = length := by
    rw [lengthAt.sum]
    simpa using sum
  simp only [read, present, Bool.false_eq_true, if_false, lengthAt.offered.1, mapError_ok,
    lengthRead, whole, ← behind_eq, knownFlags_eq, bind, Except.bind, pure, Except.pure]
  cases image.readText (behind address groups) length <;> rfl

theorem read_of_outcome (present : address.isNull = false)
    {answer : Except DescriptorFault EncodedName} (outcome : Outcome image address answer) :
    read image address = answer := by
  cases outcome with
  | flagsMissing missing =>
      simp [read, present, readUInt8_of_missing missing, bind, Except.bind, Except.mapError]
  | groupMissing unended few missing =>
      rw [behind_eq] at missing ⊢
      have cut : readLength image address 0 0 (address + 1) = _ :=
        readLength_of_cut unended.continued few room_at_start unended.offered.2 missing
      simp [read, present, unended.offered.1, cut, mapError_ok, bind, Except.bind]
  | lengthTooLong unended many =>
      have refused : readLength image address 0 0 (address + 1) = _ :=
        readLength_of_unended unended.continued many room_at_start unended.offered.2
      simp [read, present, unended.offered.1, refused, mapError_ok, bind, Except.bind]
  | textMissing lengthAt missing =>
      rw [read_of_lengthAt present lengthAt, Image.readText, Image.read, if_neg missing]
      rfl
  | textMalformed lengthAt covers _ malformed =>
      rw [read_of_lengthAt present lengthAt, Image.readText, read_stretch covers]
      simp [malformed, bind, Except.bind, Except.mapError, Except.map]
  | read lengthAt covers text =>
      rw [read_of_lengthAt present lengthAt, Image.readText, read_stretch covers, text]
      simp [Text.Utf8.decode_encode, bind, Except.bind, Except.mapError, Except.map]

theorem outcome_of_lengthAt {flagByte : UInt8} {groups : List UInt8} {length : Nat}
    (lengthAt : LengthAt image address flagByte groups length) :
    ∃ answer, Outcome image address answer := by
  by_cases covers : image.Covers (behind address groups) length
  · cases decoded : Text.Utf8.decode (image.stretch (behind address groups) length) with
    | ok text =>
        exact ⟨_, .read lengthAt covers (Text.Utf8.decode_eq_ok_iff.mp decoded)⟩
    | error fault =>
        refine ⟨_, .textMalformed lengthAt covers ?_ decoded⟩
        intro text same
        rw [Text.Utf8.decode_eq_ok_iff.mpr same] at decoded
        cases decoded
  · exact ⟨_, .textMissing lengthAt covers⟩

theorem outcome_exists (image : Image) (address : Address) :
    ∃ answer, Outcome image address answer := by
  rcases offered_or_missing image address with ⟨flagByte, offered⟩ | missing
  · rcases groups_found image maxGroups (address + 1) with ended | unended | cut
    · obtain ⟨groups, ended, few, offers⟩ := ended
      exact outcome_of_lengthAt ⟨⟨offered, offers⟩, ended, few, rfl, lengthOf_lt few⟩
    · obtain ⟨groups, continued, many, offers⟩ := unended
      exact ⟨_, .lengthTooLong ⟨⟨offered, offers⟩, continued⟩ many⟩
    · obtain ⟨groups, continued, few, offers, missing⟩ := cut
      rw [← behind_eq] at missing
      exact ⟨_, .groupMissing ⟨⟨offered, offers⟩, continued⟩ few missing⟩
  · exact ⟨_, .flagsMissing missing⟩

theorem read_eq_iff (present : address.isNull = false)
    (answer : Except DescriptorFault EncodedName) :
    read image address = answer ↔ Outcome image address answer := by
  constructor
  · intro same
    obtain ⟨other, outcome⟩ := outcome_exists image address
    rw [← same, read_of_outcome present outcome]
    exact outcome
  · exact read_of_outcome present

theorem read_written (present : address.isNull = false) {flagByte : UInt8} {text : String}
    (fits : text.utf8ByteSize < 2 ^ 35)
    (written : image.Holds address
      (flagByte :: lengthGroups text.utf8ByteSize ++ Text.Utf8.encode text))
    (reached : text = "" → address.val.toNat + 2 < 2 ^ 64) :
    read image address = .ok ⟨knownFlags flagByte, text⟩ := by
  rw [knownFlags_eq]
  apply read_of_holds present (lengthGroups_spell _) (lengthGroups_fits 4 _ fits) written
  intro blank
  subst blank
  have single : (lengthGroups "".utf8ByteSize).length = 1 := by decide +kernel
  rw [single]
  exact reached rfl

end Names

/-- Reading a name comes to exactly one outcome, which the bytes at its address decide. So a text
that is written with its length in the fewest groups is read back, unless it is empty and its
place would be beyond the last address. -/
theorem names_read_exactly (image : Image) (address : Address) (present : address.isNull = false) :
    (∀ answer, read image address = answer ↔ Outcome image address answer) ∧
      ∀ (flagByte : UInt8) (text : String), text.utf8ByteSize < 2 ^ 35 →
        Shortest (lengthGroups text.utf8ByteSize) text.utf8ByteSize ∧
          (image.Holds address
              (flagByte :: lengthGroups text.utf8ByteSize ++ Text.Utf8.encode text) →
            (text = "" → address.val.toNat + 2 < 2 ^ 64) →
              read image address = .ok ⟨knownFlags flagByte, text⟩) := by
  refine ⟨read_eq_iff present, ?_⟩
  intro flagByte text fits
  exact ⟨lengthGroups_shortest _, read_written present fits⟩

/-- A text whose length takes two groups. -/
def longText : String := String.ofList (List.replicate 150 'é')

/-- The long text as a name, behind three other bytes. -/
def longNameImage : Image :=
  ⟨⟨4096⟩, ([1, 2, 3] ++ 13 :: lengthGroups longText.utf8ByteSize ++
    Text.Utf8.encode longText).toArray⟩

theorem names_read_exactly_over_long_text :
    longNameImage.Holds ⟨4099⟩
        (13 :: lengthGroups longText.utf8ByteSize ++ Text.Utf8.encode longText) ∧
      lengthGroups longText.utf8ByteSize = [172, 2] ∧
      Outcome longNameImage ⟨4099⟩ (.ok ⟨knownFlags 13, longText⟩) ∧
      read longNameImage ⟨4099⟩ = .ok ⟨knownFlags 13, longText⟩ := by
  have size : longText.utf8ByteSize = 300 := by decide +kernel
  have groups : lengthGroups longText.utf8ByteSize = [172, 2] := by
    rw [size]
    decide +kernel
  have written : longNameImage.Holds ⟨4099⟩
      (13 :: lengthGroups longText.utf8ByteSize ++ Text.Utf8.encode longText) := by
    refine ⟨[1, 2, 3], [], by simp [longNameImage], by decide, ?_⟩
    rw [List.length_append, Text.Utf8.length_encode, groups, size]
    decide
  obtain ⟨outcomes, writtenBack⟩ := names_read_exactly longNameImage ⟨4099⟩ rfl
  have back := (writtenBack 13 longText (by rw [size]; decide)).2 written (by decide +kernel)
  exact ⟨written, groups, (outcomes _).mp back, back⟩

/-- The last two addresses, with no flags and a text without bytes. -/
def blankNameImage : Image := ⟨⟨18446744073709551614⟩, #[0, 0]⟩

/-- A text without bytes that ends the address space is missing, because the place behind its
length is the null address. -/
theorem blank_name_at_top_refused :
    blankNameImage.Holds ⟨18446744073709551614⟩
        (0 :: lengthGroups "".utf8ByteSize ++ Text.Utf8.encode "") ∧
      blankNameImage.base.val.toNat + blankNameImage.bytes.size ≤ 2 ^ 64 ∧
      read blankNameImage ⟨18446744073709551614⟩ =
        .error (.invalidName ⟨18446744073709551614⟩ (.unreadable (.outOfBounds ⟨0⟩))) := by
  refine ⟨?_, ?_, ?_⟩ <;> decide +kernel

end EncodedName

end TypeAtlas
