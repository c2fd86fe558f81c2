import TypeAtlas.Proofs.Memory.Bytes

/-!
Reads at the boundaries of an image and of the address space. The bounds that are checked in words
are those of unbounded numbers, the numbers that are read are spelled by the bytes of the same
read, and a read finds what the reads of single bytes find, one after another.
-/

namespace TypeAtlas

set_option autoImplicit false

/-! ### Words -/

theorem difference?_eq_some_iff {left right difference : UInt64} :
    difference? left right = some difference ↔
      difference.toNat + right.toNat = left.toNat := by
  have bound := left.toNat_lt
  unfold difference?
  by_cases below : right ≤ left
  · have whole := UInt64.toNat_sub_of_le left right below
    have least := UInt64.le_iff_toNat_le.mp below
    rw [if_pos below, Option.some.injEq, ← UInt64.toNat_inj, whole]
    omega
  · rw [UInt64.le_iff_toNat_le] at below
    simp only [UInt64.le_iff_toNat_le, if_neg below, reduceCtorEq, false_iff]
    omega

theorem sum?_eq_some_iff {left right sum : UInt64} :
    sum? left right = some sum ↔ left.toNat + right.toNat = sum.toNat := by
  have leftBound := left.toNat_lt
  have rightBound := right.toNat_lt
  have sumBound := sum.toNat_lt
  have total := UInt64.toNat_add left right
  unfold sum?
  by_cases wrapped : left + right < left
  · rw [if_pos wrapped]
    rw [UInt64.lt_iff_toNat_lt] at wrapped
    simp only [reduceCtorEq, false_iff]
    omega
  · rw [if_neg wrapped, Option.some.injEq, ← UInt64.toNat_inj]
    rw [UInt64.lt_iff_toNat_lt] at wrapped
    omega

theorem littleEndian_lt (bytes : List UInt8) : littleEndian bytes < 256 ^ bytes.length := by
  induction bytes with
  | nil => decide
  | cons byte higher ih =>
      have bound := byte.toNat_lt
      rw [littleEndian, List.length_cons, Nat.pow_succ']
      omega

namespace Image

variable {image : Image} {address : Address}

theorem covers_iff {length : Nat} : image.Covers address length ↔
    image.base.val.toNat ≤ address.val.toNat ∧
      address.val.toNat - image.base.val.toNat + length ≤ image.bytes.size :=
  and_congr_left fun _ => UInt64.le_iff_toNat_le

theorem read_of_covers {length : Nat} (covers : image.Covers address length) :
    image.read address length = .ok
      ((image.bytes.toList.drop (image.position address)).take length) := by
  rw [read, if_pos covers]
  simp [Array.toList_extract, List.extract_eq_take_drop]

/-! ### Bounds in words -/

theorem word_of_lt {number : Nat} (fits : number < 2 ^ 64) :
    ∃ word : UInt64, word.toNat = number :=
  ⟨UInt64.ofNat number, UInt64.toNat_ofNat_of_lt' fits⟩

theorem window?_of_covers (sized : image.bytes.size < 2 ^ 64) {length : UInt64}
    (covers : image.Covers address length.toNat) : image.window? address length =
      some ((image.bytes.toList.drop (image.position address)).take length.toNat) := by
  have inside : image.position address + length.toNat ≤ image.bytes.size := covers.2
  obtain ⟨start, startPlace⟩ : ∃ start : UInt64, start.toNat = image.position address :=
    word_of_lt (by omega)
  obtain ⟨stop, stopPlace⟩ : ∃ stop : UInt64,
      stop.toNat = image.position address + length.toNat := word_of_lt (by omega)
  have begins : difference? address.val image.base.val = some start := by
    rw [difference?_eq_some_iff, startPlace]
    exact Nat.sub_add_cancel (covers_iff.mp covers).1
  have ends : sum? start length = some stop := by
    rw [sum?_eq_some_iff, startPlace, stopPlace]
  have within : start ≤ stop ∧ stop.toNat ≤ image.bytes.size := by
    rw [UInt64.le_iff_toNat_le]
    omega
  simp only [window?, begins, ends, Option.bind_eq_bind, Option.bind_some]
  rw [slice?, if_pos within, startPlace, stopPlace]
  simp [Array.toList_extract, List.extract_eq_take_drop]

/-- What a check in words lets through is inside in unbounded numbers. -/
theorem covers_of_window? {length : UInt64} {bytes : List UInt8}
    (found : image.window? address length = some bytes) :
    image.Covers address length.toNat := by
  obtain ⟨start, begins, later⟩ := Option.bind_eq_some_iff.mp found
  obtain ⟨stop, ends, sliced⟩ := Option.bind_eq_some_iff.mp later
  rw [difference?_eq_some_iff] at begins
  rw [sum?_eq_some_iff] at ends
  have within : stop.toNat ≤ image.bytes.size := by
    unfold slice? at sliced
    split at sliced
    · rename_i held
      exact held.2
    · cases sliced
  rw [covers_iff]
  omega

theorem readBytes_eq_read (sized : image.bytes.size < 2 ^ 64) (address : Address)
    (length : UInt64) : image.readBytes address length = image.read address length.toNat := by
  by_cases covers : image.Covers address length.toNat
  · rw [readBytes, window?_of_covers sized covers, read_of_covers covers]
  · have missing : image.window? address length = none := by
      rw [Option.eq_none_iff_forall_ne_some]
      intro bytes found
      exact covers (covers_of_window? found)
    rw [readBytes, missing, read, if_neg covers]

/-! ### Numbers -/

theorem length_of_read {length : Nat} {bytes : List UInt8}
    (found : image.read address length = .ok bytes) : bytes.length = length := by
  by_cases covers : image.Covers address length
  · rw [read_of_covers covers] at found
    cases found
    have inside := covers.2
    simp only [List.length_take, List.length_drop, Array.length_toList]
    omega
  · rw [read, if_neg covers] at found
    cases found

/-- A number of a width is read as the bytes of that width spell it. -/
theorem map_readNat {α β : Type} {width : Nat} {convert : Nat → α} {value : α → β}
    (spelled : Nat → β) (whole : ∀ number < 256 ^ width, value (convert number) = spelled number) :
    ((image.readNat address width).map convert).map value =
      (image.read address width).map fun bytes => spelled (littleEndian bytes) := by
  unfold readNat
  cases found : image.read address width with
  | error fault => rfl
  | ok bytes =>
      have bound := littleEndian_lt bytes
      rw [length_of_read found] at bound
      exact congrArg Except.ok (whole _ bound)

theorem toInt_readInt32 (image : Image) (address : Address) :
    (image.readInt32 address).map Int32.toInt =
      (image.read address 4).map fun bytes => (littleEndian bytes : Int).bmod (2 ^ 32) := by
  have both : (image.readInt32 address).map Int32.toInt =
      (image.readUInt32 address).map fun word => word.toInt32.toInt := by
    unfold readInt32
    cases image.readUInt32 address <;> rfl
  rw [both]
  apply map_readNat fun number => (number : Int).bmod (2 ^ 32)
  intro number fits
  have whole : (UInt32.ofNat number).toNat = number := UInt32.toNat_ofNat_of_lt' fits
  calc (UInt32.ofNat number).toInt32.toInt
      = ((UInt32.ofNat number).toNat : Int).bmod (2 ^ 32) := BitVec.toInt_eq_toNat_bmod _
    _ = (number : Int).bmod (2 ^ 32) := by rw [whole]

/-! ### Single bytes -/

theorem readUInt8_eq_ok_iff {byte : UInt8} : image.readUInt8 address = .ok byte ↔
    image.base ≤ address ∧ image.bytes.toList[image.position address]? = some byte := by
  have read : image.readUInt8 address =
      (image.read address 1).map fun bytes => UInt8.ofNat (littleEndian bytes) := by
    unfold readUInt8 readNat
    cases image.read address 1 <;> rfl
  by_cases covers : image.Covers address 1
  · have inside : image.position address < image.bytes.toList.length := covers.2
    have single : (image.bytes.toList.drop (image.position address)).take 1 =
        [image.bytes.toList[image.position address]] := by
      rw [List.drop_eq_getElem_cons inside, List.take_succ_cons, List.take_zero]
    rw [read, read_of_covers covers, single, List.getElem?_eq_getElem inside]
    simp [Except.map, littleEndian, covers.1]
  · rw [read, Image.read, if_neg covers]
    constructor
    · intro found
      cases found
    · intro found
      obtain ⟨inside, _⟩ := List.getElem?_eq_some_iff.mp found.2
      exact absurd ⟨found.1, inside⟩ covers

/-- A read within the image meets no top of the address space on its way. -/
theorem readUInt8_further {length place : Nat} (covers : image.Covers address length)
    (below : image.base.val.toNat + image.bytes.size ≤ 2 ^ 64) (inside : place < length) :
    ∃ byte, image.bytes.toList[image.position address + place]? = some byte ∧
      image.readUInt8 (address + UInt64.ofNat place) = .ok byte := by
  obtain ⟨above, held⟩ := covers_iff.mp covers
  have further := @toNat_add_ofNat address place (by omega)
  have there : image.position address + place < image.bytes.toList.length := by
    rw [Array.length_toList]
    unfold position
    omega
  have same : image.position (address + UInt64.ofNat place) = image.position address + place := by
    unfold position
    omega
  refine ⟨_, List.getElem?_eq_getElem there, ?_⟩
  rw [readUInt8_eq_ok_iff, same]
  refine ⟨?_, List.getElem?_eq_getElem there⟩
  show image.base.val ≤ _
  rw [UInt64.le_iff_toNat_le, further]
  omega

theorem readUInt8_each {length : Nat} (covers : image.Covers address length)
    (below : image.base.val.toNat + image.bytes.size ≤ 2 ^ 64) :
    ((List.range length).map fun place => image.readUInt8 (address + UInt64.ofNat place)) =
      ((image.bytes.toList.drop (image.position address)).take length).map .ok := by
  apply List.ext_getElem?
  intro place
  by_cases inside : place < length
  · obtain ⟨byte, held, read⟩ := readUInt8_further covers below inside
    simp [inside, held, read, List.getElem?_drop]
  · simp [inside]

theorem toNat_further (address : Address) (distance : Nat) :
    (address + UInt64.ofNat distance).val.toNat = (address.val.toNat + distance) % 2 ^ 64 := by
  show (address.val + UInt64.ofNat distance).toNat = _
  rw [UInt64.toNat_add, UInt64.toNat_ofNat', Nat.add_mod_mod]

/-- Reads of single bytes that all succeed do not wrap. Only an image of all addresses would have
bytes on both sides of the top of the address space. -/
theorem covers_of_each {length : Nat} (sized : image.bytes.size < 2 ^ 64)
    (below : image.base.val.toNat + image.bytes.size ≤ 2 ^ 64) (filled : 0 < length)
    (each : ∀ place < length, ∃ byte, image.readUInt8 (address + UInt64.ofNat place) = .ok byte) :
    image.Covers address length := by
  have start := address.val.toNat_lt
  have found : ∀ place < length, image.Covers (address + UInt64.ofNat place) 1 := by
    intro place inside
    obtain ⟨byte, read⟩ := each place inside
    obtain ⟨above, held⟩ := readUInt8_eq_ok_iff.mp read
    obtain ⟨within, _⟩ := List.getElem?_eq_some_iff.mp held
    exact ⟨above, within⟩
  have reached : ∀ place < length, image.base.val.toNat ≤ address.val.toNat ∧
      address.val.toNat - image.base.val.toNat + place < image.bytes.size := by
    intro place
    induction place with
    | zero =>
        intro inside
        have first := covers_iff.mp (found 0 inside)
        rw [toNat_further] at first
        omega
    | succ place ih =>
        intro inside
        have before := ih (by omega)
        have next := covers_iff.mp (found (place + 1) inside)
        rw [toNat_further] at next
        omega
  obtain ⟨above, last⟩ := reached (length - 1) (by omega)
  exact covers_iff.mpr ⟨above, by omega⟩

theorem read_eq_ok_iff_each {length : Nat} {bytes : List UInt8}
    (sized : image.bytes.size < 2 ^ 64)
    (below : image.base.val.toNat + image.bytes.size ≤ 2 ^ 64) (filled : 0 < length) :
    image.read address length = .ok bytes ↔
      ((List.range length).map fun place => image.readUInt8 (address + UInt64.ofNat place)) =
        bytes.map .ok := by
  constructor
  · intro found
    by_cases covers : image.Covers address length
    · rw [read_of_covers covers] at found
      cases found
      exact readUInt8_each covers below
    · rw [read, if_neg covers] at found
      cases found
  · intro same
    have covers : image.Covers address length := by
      apply covers_of_each sized below filled
      intro place inside
      have member : image.readUInt8 (address + UInt64.ofNat place) ∈ bytes.map .ok := by
        rw [← same]
        exact List.mem_map.mpr ⟨place, List.mem_range.mpr inside, rfl⟩
      obtain ⟨byte, _, read⟩ := List.mem_map.mp member
      exact ⟨byte, read.symm⟩
    rw [readUInt8_each covers below] at same
    rw [read_of_covers covers, List.map_inj_right (fun _ _ => Except.ok.inj) |>.mp same]

/-! ### All reads -/

/-- What the reads of an address find, told by the place of the address above the base. -/
structure ReadsExactly (image : Image) (address : Address) : Prop where
  bytes (length : UInt64) : image.readBytes address length =
    if image.base.val.toNat ≤ address.val.toNat ∧
        address.val.toNat - image.base.val.toNat + length.toNat ≤ image.bytes.size then
      .ok ((image.bytes.toList.drop (address.val.toNat - image.base.val.toNat)).take length.toNat)
    else .error (.outOfBounds address)
  uint8 : (image.readUInt8 address).map UInt8.toNat =
    (image.readBytes address 1).map littleEndian
  uint16 : (image.readUInt16 address).map UInt16.toNat =
    (image.readBytes address 2).map littleEndian
  uint32 : (image.readUInt32 address).map UInt32.toNat =
    (image.readBytes address 4).map littleEndian
  uint64 : (image.readUInt64 address).map UInt64.toNat =
    (image.readBytes address 8).map littleEndian
  int32 : (image.readInt32 address).map Int32.toInt =
    (image.readBytes address 4).map fun bytes => (littleEndian bytes : Int).bmod (2 ^ 32)
  pointer : (image.readAddress address).map (fun target => target.val.toNat) =
    (image.readBytes address 8).map littleEndian
  each (below : image.base.val.toNat + image.bytes.size ≤ 2 ^ 64) (length : UInt64)
      (filled : 0 < length) (found : List UInt8) :
    image.readBytes address length = .ok found ↔
      ((List.range length.toNat).map fun place =>
        image.readUInt8 (address + UInt64.ofNat place)) = found.map .ok

theorem readBytes_eq_ite (sized : image.bytes.size < 2 ^ 64) (address : Address)
    (length : UInt64) : image.readBytes address length =
      if image.base.val.toNat ≤ address.val.toNat ∧
          address.val.toNat - image.base.val.toNat + length.toNat ≤ image.bytes.size then
        .ok ((image.bytes.toList.drop (address.val.toNat - image.base.val.toNat)).take
          length.toNat)
      else .error (.outOfBounds address) := by
  rw [readBytes_eq_read sized]
  by_cases covers : image.Covers address length.toNat
  · rw [read_of_covers covers, if_pos (covers_iff.mp covers)]
    rfl
  · rw [read, if_neg covers, if_neg (mt covers_iff.mpr covers)]

/-- Bounds that are checked in words are exact at every address, the base, the end of the image
and the top of the address space included. An image has fewer bytes than a word can count. -/
theorem readsExactly (image : Image) (sized : image.bytes.size < 2 ^ 64) (address : Address) :
    image.ReadsExactly address where
  bytes := readBytes_eq_ite sized address
  uint8 := by
    rw [readBytes_eq_read sized]
    exact map_readNat id fun _ fits => UInt8.toNat_ofNat_of_lt' fits
  uint16 := by
    rw [readBytes_eq_read sized]
    exact map_readNat id fun _ fits => UInt16.toNat_ofNat_of_lt' fits
  uint32 := by
    rw [readBytes_eq_read sized]
    exact map_readNat id fun _ fits => UInt32.toNat_ofNat_of_lt' fits
  uint64 := by
    rw [readBytes_eq_read sized]
    exact map_readNat id fun _ fits => UInt64.toNat_ofNat_of_lt' fits
  int32 := by
    rw [readBytes_eq_read sized]
    exact toInt_readInt32 image address
  pointer := by
    have target : (image.readAddress address).map (fun target => target.val.toNat) =
        (image.readUInt64 address).map UInt64.toNat := by
      unfold readAddress
      cases image.readUInt64 address <;> rfl
    rw [target, readBytes_eq_read sized]
    exact map_readNat id fun _ fits => UInt64.toNat_ofNat_of_lt' fits
  each := by
    intro below length filled found
    rw [readBytes_eq_read sized]
    exact read_eq_ok_iff_each sized below (UInt64.lt_iff_toNat_lt.mp filled)

/-- Four bytes below the top of the address space. -/
theorem readsExactly_top :
    (⟨⟨0xfffffffffffffffc⟩, #[1, 2, 3, 4]⟩ : Image).bytes.size < 2 ^ 64 ∧
      (⟨⟨0xfffffffffffffffc⟩, #[1, 2, 3, 4]⟩ : Image).ReadsExactly ⟨0xfffffffffffffffe⟩ :=
  ⟨by decide, readsExactly _ (by decide) _⟩

example : (⟨⟨0xfffffffffffffffc⟩, #[1, 2, 3, 4]⟩ : Image).readBytes ⟨0xfffffffffffffffe⟩
    0xffffffffffffffff = .error (.outOfBounds ⟨0xfffffffffffffffe⟩) := by
  decide

end Image

end TypeAtlas
