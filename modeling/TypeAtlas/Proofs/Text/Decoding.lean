import Mathlib.Data.List.Basic
import TypeAtlas.Proofs.Text.Utf8

/-!
A strict reading accepts UTF-8 and nothing else: the bytes that are read as a text are the
encoding of that text. As long as no malformed piece has been met, the bytes scanned so far are
the encodings of the characters read and the beginning of one more.
-/

namespace TypeAtlas.Text.Utf8

set_option autoImplicit false

/-! ### Encodings by the digits of a value to base 64 -/

theorem value_of_valid {value : Nat} (valid : value.isValidChar) :
    (Char.ofNat value).val.toNat = value := by
  have found : Char.ofNat value = Char.ofNatAux value valid := dif_pos valid
  rw [found]
  rfl

theorem encodeChar_one {value : Nat} (small : value < 128) :
    String.utf8EncodeChar (Char.ofNat value) = [UInt8.ofNat value] := by
  unfold String.utf8EncodeChar
  dsimp only
  rw [value_of_valid (Or.inl (by omega)), if_pos (by omega)]

theorem encodeChar_two {high low : Nat} (least : 2 ≤ high) (highFits : high < 32)
    (lowFits : low < 64) :
    String.utf8EncodeChar (Char.ofNat (high * 64 + low)) =
      [UInt8.ofNat (high + 192), UInt8.ofNat (low + 128)] := by
  have highDigit : (high * 64 + low) / 64 % 32 = high := by omega
  have lowDigit : (high * 64 + low) % 64 = low := by omega
  unfold String.utf8EncodeChar
  dsimp only
  rw [value_of_valid (Or.inl (by omega)), if_neg (by omega), if_pos (by omega), highDigit,
    lowDigit]

theorem encodeChar_three {high middle low : Nat} (highFits : high < 16) (middleFits : middle < 64)
    (lowFits : low < 64) (least : high = 0 → 32 ≤ middle) (scalar : high = 13 → middle < 32) :
    String.utf8EncodeChar (Char.ofNat ((high * 64 + middle) * 64 + low)) =
      [UInt8.ofNat (high + 224), UInt8.ofNat (middle + 128), UInt8.ofNat (low + 128)] := by
  have highDigit : ((high * 64 + middle) * 64 + low) / 4096 % 16 = high := by omega
  have middleDigit : ((high * 64 + middle) * 64 + low) / 64 % 64 = middle := by omega
  have lowDigit : ((high * 64 + middle) * 64 + low) % 64 = low := by omega
  have valid : ((high * 64 + middle) * 64 + low).isValidChar := by
    unfold Nat.isValidChar
    omega
  unfold String.utf8EncodeChar
  dsimp only
  rw [value_of_valid valid, if_neg (by omega), if_neg (by omega), if_pos (by omega),
    highDigit, middleDigit, lowDigit]

theorem encodeChar_four {high upper middle low : Nat} (highFits : high < 5)
    (upperFits : upper < 64) (middleFits : middle < 64) (lowFits : low < 64)
    (least : high = 0 → 16 ≤ upper) (most : high = 4 → upper < 16) :
    String.utf8EncodeChar (Char.ofNat (((high * 64 + upper) * 64 + middle) * 64 + low)) =
      [UInt8.ofNat (high + 240), UInt8.ofNat (upper + 128), UInt8.ofNat (middle + 128),
        UInt8.ofNat (low + 128)] := by
  have highDigit : (((high * 64 + upper) * 64 + middle) * 64 + low) / 262144 % 8 = high := by
    omega
  have upperDigit : (((high * 64 + upper) * 64 + middle) * 64 + low) / 4096 % 64 = upper := by
    omega
  have middleDigit : (((high * 64 + upper) * 64 + middle) * 64 + low) / 64 % 64 = middle := by
    omega
  have lowDigit : (((high * 64 + upper) * 64 + middle) * 64 + low) % 64 = low := by omega
  have valid : (((high * 64 + upper) * 64 + middle) * 64 + low).isValidChar := by
    unfold Nat.isValidChar
    omega
  unfold String.utf8EncodeChar
  dsimp only
  rw [value_of_valid valid, if_neg (by omega), if_neg (by omega), if_neg (by omega),
    highDigit, upperDigit, middleDigit, lowDigit]

/-! ### A character begun -/

/-- What lead bytes open, by the length of the encoding. -/
inductive Opens : UInt8 → Opened → Prop where
  | two {high : Nat} : 2 ≤ high → high < 32 →
      Opens (UInt8.ofNat (high + 192)) ⟨high, 1, 0x80, 0xBF, 1⟩
  | three {high : Nat} : high < 16 → Opens (UInt8.ofNat (high + 224))
      ⟨high, 2, if high = 0 then 0xA0 else 0x80, if high = 13 then 0x9F else 0xBF, 1⟩
  | four {high : Nat} : high < 5 → Opens (UInt8.ofNat (high + 240))
      ⟨high, 3, if high = 0 then 0x90 else 0x80, if high = 4 then 0x8F else 0xBF, 1⟩

theorem openedBy_none : ∀ lead < 256, lead < 194 ∨ 244 < lead →
    openedBy (UInt8.ofNat lead) = none := by
  decide +kernel

theorem opens_of_openedBy {lead : UInt8} {opened : Opened} (opens : openedBy lead = some opened) :
    Opens lead opened := by
  obtain ⟨value, byte, rfl⟩ : ∃ value < 256, lead = UInt8.ofNat value :=
    ⟨lead.toNat, lead.toNat_lt, UInt8.ofNat_toNat.symm⟩
  by_cases outside : value < 194 ∨ 244 < value
  · rw [openedBy_none value byte outside] at opens
    cases opens
  by_cases two : value < 224
  · obtain ⟨high, rfl⟩ : ∃ high, value = high + 192 := ⟨value - 192, by omega⟩
    rw [openedBy_two high (by omega) (by omega)] at opens
    cases opens
    exact .two (by omega) (by omega)
  by_cases three : value < 240
  · obtain ⟨high, rfl⟩ : ∃ high, value = high + 224 := ⟨value - 224, by omega⟩
    rw [openedBy_three high (by omega)] at opens
    cases opens
    exact .three (by omega)
  · obtain ⟨high, rfl⟩ : ∃ high, value = high + 240 := ⟨value - 240, by omega⟩
    rw [openedBy_four high (by omega)] at opens
    cases opens
    exact .four (by omega)

/-- The bytes of a character that has been begun, from its lead byte on. -/
inductive Begun : List UInt8 → Opened → Prop where
  | lead {lead : UInt8} {opened : Opened} : Opens lead opened → Begun [lead] opened
  | further {bytes : List UInt8} {opened : Opened} {byte : UInt8} : Begun bytes opened →
      opened.low ≤ byte → byte ≤ opened.high → 1 < opened.missing →
        Begun (bytes ++ [byte])
          ⟨opened.bits * 64 + byte.toNat % 64, opened.missing - 1, 0x80, 0xBF, opened.read + 1⟩

theorem begun_missing {bytes : List UInt8} {opened : Opened} (begun : Begun bytes opened) :
    opened.missing ≤ 3 := by
  induction begun with
  | lead opens => cases opens <;> simp
  | further _ _ _ _ ih =>
      dsimp only
      omega

/-- A byte that continues a character carries a digit. -/
theorem digit_of_within {byte low high : UInt8} (least : 128 ≤ low.toNat)
    (most : high.toNat ≤ 191) (above : low ≤ byte) (below : byte ≤ high) :
    ∃ digit < 64, byte = UInt8.ofNat (digit + 128) ∧ byte.toNat % 64 = digit ∧
      low.toNat ≤ digit + 128 ∧ digit + 128 ≤ high.toNat := by
  rw [UInt8.le_iff_toNat_le] at above below
  have whole : byte.toNat - 128 + 128 = byte.toNat := by omega
  refine ⟨byte.toNat - 128, by omega, ?_, by omega, by omega, by omega⟩
  rw [whole, UInt8.ofNat_toNat]

theorem digit_of_tail {byte : UInt8} (above : 0x80 ≤ byte) (below : byte ≤ 0xBF) :
    ∃ digit < 64, byte = UInt8.ofNat (digit + 128) ∧ byte.toNat % 64 = digit := by
  obtain ⟨digit, fits, shape, value, _⟩ := digit_of_within (by decide) (by decide) above below
  exact ⟨digit, fits, shape, value⟩

theorem digit_of_three {byte : UInt8} {high : Nat}
    (above : (if high = 0 then 0xA0 else 0x80) ≤ byte)
    (below : byte ≤ (if high = 13 then 0x9F else 0xBF)) :
    ∃ digit < 64, byte = UInt8.ofNat (digit + 128) ∧ byte.toNat % 64 = digit ∧
      (high = 0 → 32 ≤ digit) ∧ (high = 13 → digit < 32) := by
  obtain ⟨digit, fits, shape, value, least, most⟩ :=
    digit_of_within (by split <;> decide) (by split <;> decide) above below
  refine ⟨digit, fits, shape, value, ?_, ?_⟩
  · intro first
    rw [if_pos first] at least
    have bound : 160 ≤ digit + 128 := least
    omega
  · intro surrogates
    rw [if_pos surrogates] at most
    have bound : digit + 128 ≤ 159 := most
    omega

theorem digit_of_four {byte : UInt8} {high : Nat}
    (above : (if high = 0 then 0x90 else 0x80) ≤ byte)
    (below : byte ≤ (if high = 4 then 0x8F else 0xBF)) :
    ∃ digit < 64, byte = UInt8.ofNat (digit + 128) ∧ byte.toNat % 64 = digit ∧
      (high = 0 → 16 ≤ digit) ∧ (high = 4 → digit < 16) := by
  obtain ⟨digit, fits, shape, value, least, most⟩ :=
    digit_of_within (by split <;> decide) (by split <;> decide) above below
  refine ⟨digit, fits, shape, value, ?_, ?_⟩
  · intro first
    rw [if_pos first] at least
    have bound : 144 ≤ digit + 128 := least
    omega
  · intro last
    rw [if_pos last] at most
    have bound : digit + 128 ≤ 143 := most
    omega

/-- The byte that completes a character makes the bytes since its lead byte its encoding. The
number of bytes still missing tells how long the encoding is and how much of it has been read. -/
theorem encodeChar_completed {bytes : List UInt8} {opened : Opened} {byte : UInt8}
    (begun : Begun bytes opened) (above : opened.low ≤ byte) (below : byte ≤ opened.high)
    (last : opened.missing ≤ 1) :
    String.utf8EncodeChar (Char.ofNat (opened.bits * 64 + byte.toNat % 64)) = bytes ++ [byte] := by
  cases begun with
  | lead opens =>
      cases opens with
      | two least fits =>
          obtain ⟨low, lowFits, rfl, value⟩ := digit_of_tail above below
          rw [value]
          exact encodeChar_two least fits lowFits
      | three => simp at last
      | four => simp at last
  | further begun aboveNext belowNext more =>
      obtain ⟨low, lowFits, rfl, value⟩ := digit_of_tail above below
      cases begun with
      | lead opens =>
          cases opens with
          | two => simp at more
          | three fits =>
              obtain ⟨middle, middleFits, rfl, middleValue, least, scalar⟩ :=
                digit_of_three aboveNext belowNext
              rw [value, middleValue]
              exact encodeChar_three fits middleFits lowFits least scalar
          | four => simp at last
      | further begun aboveUpper belowUpper moreUpper =>
          obtain ⟨middle, middleFits, rfl, middleValue⟩ := digit_of_tail aboveNext belowNext
          cases begun with
          | lead opens =>
              cases opens with
              | two => simp at moreUpper
              | three => simp at more
              | four fits =>
                  obtain ⟨upper, upperFits, rfl, upperValue, least, most⟩ :=
                    digit_of_four aboveUpper belowUpper
                  rw [value, middleValue, upperValue]
                  exact encodeChar_four fits upperFits middleFits lowFits least most
          | further begun _ _ _ =>
              have few := begun_missing begun
              dsimp only at more moreUpper
              omega

/-! ### The scan -/

/-- If all pieces are characters, the bytes are their encodings and those of a character begun. -/
def Explained (bytes : List UInt8) (scan : Scan) : Prop :=
  ∀ characters : List Char, scan.pieces = (characters.map Piece.scalar).reverse →
    ∃ begun, bytes = characters.flatMap String.utf8EncodeChar ++ begun ∧
      match scan.opened with
      | none => begun = []
      | some opened => Begun begun opened

/-- The latest of several characters, if that is what the pieces are. -/
theorem scalar_latest {piece : Piece} {pieces : List Piece} {characters : List Char}
    (same : piece :: pieces = (characters.map Piece.scalar).reverse) :
    ∃ earlier latest, characters = earlier ++ [latest] ∧ piece = .scalar latest ∧
      pieces = (earlier.map Piece.scalar).reverse := by
  rcases List.eq_nil_or_concat' characters with rfl | ⟨earlier, latest, rfl⟩
  · simp at same
  · rw [List.map_append, List.reverse_append] at same
    obtain ⟨first, rest⟩ := List.cons.inj same
    exact ⟨earlier, latest, rfl, first, rest⟩

/-- With a malformed piece behind it, nothing is left to explain. -/
theorem explained_of_malformed {bytes : List UInt8} {scan : Scan} {length : Nat}
    (malformed : Piece.malformed length ∈ scan.pieces) : Explained bytes scan := by
  intro characters same
  rw [same] at malformed
  simp at malformed

theorem explained_character {bytes before : List UInt8} {pieces : List Piece} {character : Char}
    {opened : Option Opened} (explained : Explained bytes ⟨pieces, opened⟩)
    (completed : ∀ begun, (match opened with
      | none => begun = []
      | some opened => Begun begun opened) →
        begun ++ before = String.utf8EncodeChar character) :
    Explained (bytes ++ before) ⟨.scalar character :: pieces, none⟩ := by
  intro characters same
  obtain ⟨earlier, latest, rfl, scalar, rest⟩ := scalar_latest same
  cases scalar
  obtain ⟨begun, shape, state⟩ := explained earlier rest
  refine ⟨[], ?_, rfl⟩
  rw [shape, List.append_assoc, completed begun state]
  simp

theorem explained_begin {bytes : List UInt8} {pieces : List Piece} {byte : UInt8}
    (explained : Explained bytes ⟨pieces, none⟩) :
    Explained (bytes ++ [byte]) (Scan.begin pieces byte) := by
  unfold Scan.begin
  split
  · rename_i low
    have small : byte.toNat < 128 := UInt8.lt_iff_toNat_lt.mp low
    apply explained_character explained
    intro begun nothing
    rw [show begun = [] from nothing, encodeChar_one small, UInt8.ofNat_toNat]
    rfl
  · split
    · rename_i opened opens
      intro characters same
      obtain ⟨begun, shape, nothing⟩ := explained characters same
      have blank : begun = [] := nothing
      subst blank
      refine ⟨[byte], ?_, .lead (opens_of_openedBy opens)⟩
      rw [shape, List.append_nil]
    · exact explained_of_malformed List.mem_cons_self

theorem malformed_begin {length : Nat} {pieces : List Piece} {byte : UInt8}
    (malformed : Piece.malformed length ∈ pieces) :
    Piece.malformed length ∈ (Scan.begin pieces byte).pieces := by
  unfold Scan.begin
  split
  · exact List.mem_cons_of_mem _ malformed
  · split
    · exact malformed
    · exact List.mem_cons_of_mem _ malformed

theorem explained_step {bytes : List UInt8} {scan : Scan} (explained : Explained bytes scan)
    (byte : UInt8) : Explained (bytes ++ [byte]) (scan.step byte) := by
  obtain ⟨pieces, opened⟩ := scan
  unfold Scan.step
  cases opened with
  | none => exact explained_begin explained
  | some opened =>
      dsimp only
      split
      · rename_i within
        split
        · rename_i last
          apply explained_character explained
          intro begun state
          exact (encodeChar_completed state within.1 within.2 last).symm
        · rename_i more
          intro characters same
          obtain ⟨begun, shape, state⟩ := explained characters same
          refine ⟨begun ++ [byte], ?_, .further state within.1 within.2 (by omega)⟩
          rw [shape, List.append_assoc]
      · exact explained_of_malformed (malformed_begin List.mem_cons_self)

theorem explained_steps (later : List UInt8) :
    ∀ {bytes : List UInt8} {scan : Scan}, Explained bytes scan →
      Explained (bytes ++ later) (later.foldl Scan.step scan) := by
  induction later with
  | nil =>
      intro bytes scan explained
      simpa using explained
  | cons byte later ih =>
      intro bytes scan explained
      have whole := ih (explained_step explained byte)
      rwa [List.append_assoc] at whole

theorem explained_empty : Explained [] Scan.empty := by
  intro characters same
  cases characters with
  | nil => exact ⟨[], rfl, rfl⟩
  | cons character characters => simp [Scan.empty] at same

/-! ### Texts -/

theorem scalars_of_firstFault (read : List Piece) :
    ∀ index, firstFault index read = none → ∃ characters : List Char,
      read = characters.map Piece.scalar := by
  induction read with
  | nil => exact fun _ _ => ⟨[], rfl⟩
  | cons piece later ih =>
      intro index faultless
      cases piece with
      | scalar character =>
          obtain ⟨characters, rfl⟩ := ih _ faultless
          exact ⟨character :: characters, rfl⟩
      | malformed length => cases faultless
      | cutOff => cases faultless

theorem bytes_of_pieces {bytes : List UInt8} {characters : List Char}
    (read : pieces bytes = characters.map Piece.scalar) :
    bytes = characters.flatMap String.utf8EncodeChar := by
  have explained : Explained bytes (bytes.foldl Scan.step Scan.empty) :=
    explained_steps bytes explained_empty
  unfold pieces at read
  generalize bytes.foldl Scan.step Scan.empty = scan at explained read
  obtain ⟨scanned, opened⟩ := scan
  cases opened with
  | none =>
      obtain ⟨begun, shape, nothing⟩ := explained characters (List.reverse_eq_iff.mp read)
      rw [shape, show begun = [] from nothing, List.append_nil]
  | some opened =>
      have cut : Piece.cutOff ∈ characters.map Piece.scalar := by
        rw [← read]
        simp [Scan.finish]
      simp at cut

/-- The bytes that are read as a text are its encoding, and its encoding is read as the text. -/
theorem decode_eq_ok_iff {bytes : List UInt8} {text : String} :
    decode bytes = .ok text ↔ bytes = encode text := by
  constructor
  · intro read
    unfold decode at read
    dsimp only at read
    split at read
    · cases read
    · rename_i faultless
      obtain ⟨characters, scalars⟩ := scalars_of_firstFault _ 0 faultless
      have characterwise : (pieces bytes).map Piece.character = characters := by
        rw [scalars, List.map_map]
        exact List.map_id characters
      rw [characterwise] at read
      cases read
      rw [encode_chars, String.toList_ofList]
      exact bytes_of_pieces scalars
  · intro same
    rw [same]
    exact decode_encode text

end TypeAtlas.Text.Utf8
