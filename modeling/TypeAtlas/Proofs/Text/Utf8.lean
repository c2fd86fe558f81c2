import TypeAtlas.Text.Utf8

/-!
Texts survive being encoded as UTF-8. Each character is read back from its own bytes, whatever
was read before, and leaves nothing open.
-/

namespace TypeAtlas.Text.Utf8

set_option autoImplicit false

def encode (text : String) : List UInt8 := text.toUTF8.data.toList

theorem encode_chars (text : String) : encode text = text.toList.flatMap String.utf8EncodeChar := by
  show text.toByteArray.data.toList = _
  rw [← String.utf8Encode_toList, List.utf8Encode, List.toList_data_toByteArray]

theorem length_encode (text : String) : (encode text).length = text.utf8ByteSize := rfl

/-! ### Lead bytes -/

theorem openedBy_two : ∀ high < 32, 2 ≤ high →
    openedBy (UInt8.ofNat (high + 192)) = some ⟨high, 1, 0x80, 0xBF, 1⟩ := by
  decide

/-- The next byte is kept from long forms and from surrogates. -/
theorem openedBy_three : ∀ high < 16, openedBy (UInt8.ofNat (high + 224)) =
    some ⟨high, 2, if high = 0 then 0xA0 else 0x80, if high = 13 then 0x9F else 0xBF, 1⟩ := by
  decide

/-- The next byte is kept from long forms and from what lies above U+10FFFF. -/
theorem openedBy_four : ∀ high < 5, openedBy (UInt8.ofNat (high + 240)) =
    some ⟨high, 3, if high = 0 then 0x90 else 0x80, if high = 4 then 0x8F else 0xBF, 1⟩ := by
  decide

/-! ### One character -/

/-- A byte that continues the open value adds six bits to it. -/
theorem step_continued {pieces : List Piece} {opened : Opened} {bits : Nat} (fits : bits < 64)
    (above : opened.low.toNat ≤ bits + 128) (below : bits + 128 ≤ opened.high.toNat) :
    Scan.step ⟨pieces, some opened⟩ (UInt8.ofNat (bits + 128)) =
      if opened.missing ≤ 1 then
        ⟨.scalar (Char.ofNat (opened.bits * 64 + bits)) :: pieces, none⟩
      else
        ⟨pieces, some ⟨opened.bits * 64 + bits, opened.missing - 1, 0x80, 0xBF,
          opened.read + 1⟩⟩ := by
  have byte := UInt8.toNat_ofNat_of_lt' (show bits + 128 < 256 by omega)
  have within : opened.low ≤ UInt8.ofNat (bits + 128) ∧
      UInt8.ofNat (bits + 128) ≤ opened.high := by
    rw [UInt8.le_iff_toNat_le, UInt8.le_iff_toNat_le, byte]
    exact ⟨above, below⟩
  have low : (bits + 128) % 64 = bits := by omega
  simp only [Scan.step, if_pos within, byte, low]

theorem step_opening {pieces : List Piece} {lead : UInt8} {opened : Opened} (high : ¬lead < 0x80)
    (opens : openedBy lead = some opened) :
    Scan.step ⟨pieces, none⟩ lead = ⟨pieces, some opened⟩ := by
  simp only [Scan.step, Scan.begin, if_neg high, opens]

theorem high_lead {lead : Nat} (high : 128 ≤ lead) (byte : lead < 256) :
    ¬UInt8.ofNat lead < 0x80 := by
  intro low
  have small : lead < 128 := (UInt8.ofNat_lt_iff_lt byte (by decide)).mp low
  omega

theorem steps_one {value : Nat} (pieces : List Piece) (small : value ≤ 127) :
    [UInt8.ofNat value].foldl Scan.step ⟨pieces, none⟩ =
      ⟨.scalar (Char.ofNat value) :: pieces, none⟩ := by
  have byte : value < 256 := by omega
  have whole := UInt8.toNat_ofNat_of_lt' byte
  have low : UInt8.ofNat value < 0x80 :=
    (UInt8.ofNat_lt_iff_lt byte (by decide)).mpr (show value < 128 by omega)
  simp only [List.foldl_cons, List.foldl_nil, Scan.step, Scan.begin, if_pos low, whole]

theorem steps_two {value : Nat} (pieces : List Piece) (large : 127 < value)
    (small : value ≤ 2047) :
    [UInt8.ofNat (value / 64 % 32 + 192), UInt8.ofNat (value % 64 + 128)].foldl Scan.step
        ⟨pieces, none⟩ = ⟨.scalar (Char.ofNat value) :: pieces, none⟩ := by
  have whole : value / 64 % 32 * 64 + value % 64 = value := by omega
  simp only [List.foldl_cons, List.foldl_nil]
  rw [step_opening (high_lead (by omega) (by omega))
      (openedBy_two (value / 64 % 32) (by omega) (by omega)),
    step_continued (by omega) (by simp) (by simp; omega), if_pos (by simp), whole]

theorem steps_three {value : Nat} (pieces : List Piece) (large : 2047 < value)
    (small : value ≤ 65535) (scalar : value < 0xD800 ∨ 0xDFFF < value) :
    [UInt8.ofNat (value / 4096 % 16 + 224), UInt8.ofNat (value / 64 % 64 + 128),
        UInt8.ofNat (value % 64 + 128)].foldl Scan.step ⟨pieces, none⟩ =
      ⟨.scalar (Char.ofNat value) :: pieces, none⟩ := by
  have whole : (value / 4096 % 16 * 64 + value / 64 % 64) * 64 + value % 64 = value := by omega
  have above : (if value / 4096 % 16 = 0 then 0xA0 else 0x80 : UInt8).toNat ≤
      value / 64 % 64 + 128 := by
    split
    · simp
      omega
    · simp
  have below : value / 64 % 64 + 128 ≤
      (if value / 4096 % 16 = 13 then 0x9F else 0xBF : UInt8).toNat := by
    split
    · simp
      omega
    · simp
      omega
  simp only [List.foldl_cons, List.foldl_nil]
  rw [step_opening (high_lead (by omega) (by omega))
      (openedBy_three (value / 4096 % 16) (by omega)),
    step_continued (by omega) above below, if_neg (by simp),
    step_continued (by omega) (by simp) (by simp; omega), if_pos (by simp), whole]

theorem steps_four {value : Nat} (pieces : List Piece) (large : 65535 < value)
    (small : value < 0x110000) :
    [UInt8.ofNat (value / 262144 % 8 + 240), UInt8.ofNat (value / 4096 % 64 + 128),
        UInt8.ofNat (value / 64 % 64 + 128), UInt8.ofNat (value % 64 + 128)].foldl Scan.step
        ⟨pieces, none⟩ = ⟨.scalar (Char.ofNat value) :: pieces, none⟩ := by
  have whole : ((value / 262144 % 8 * 64 + value / 4096 % 64) * 64 + value / 64 % 64) * 64 +
      value % 64 = value := by omega
  have above : (if value / 262144 % 8 = 0 then 0x90 else 0x80 : UInt8).toNat ≤
      value / 4096 % 64 + 128 := by
    split
    · simp
      omega
    · simp
  have below : value / 4096 % 64 + 128 ≤
      (if value / 262144 % 8 = 4 then 0x8F else 0xBF : UInt8).toNat := by
    split
    · simp
      omega
    · simp
      omega
  simp only [List.foldl_cons, List.foldl_nil]
  rw [step_opening (high_lead (by omega) (by omega))
      (openedBy_four (value / 262144 % 8) (by omega)),
    step_continued (by omega) above below, if_neg (by simp),
    step_continued (by omega) (by simp) (by simp; omega), if_neg (by simp),
    step_continued (by omega) (by simp) (by simp; omega), if_pos (by simp), whole]

theorem steps_char (pieces : List Piece) (character : Char) :
    (String.utf8EncodeChar character).foldl Scan.step ⟨pieces, none⟩ =
      ⟨.scalar character :: pieces, none⟩ := by
  have valid : character.val.toNat < 0xD800 ∨
      0xDFFF < character.val.toNat ∧ character.val.toNat < 0x110000 := character.valid
  have back : Char.ofNat character.val.toNat = character := Char.ofNat_toNat character
  unfold String.utf8EncodeChar
  dsimp only
  split
  · rw [steps_one pieces (by assumption), back]
  · split
    · rw [steps_two pieces (by omega) (by assumption), back]
    · split
      · rw [steps_three pieces (by omega) (by assumption) (by omega), back]
      · rw [steps_four pieces (by omega) (by omega), back]

/-! ### Whole texts -/

theorem steps_chars (characters : List Char) (pieces : List Piece) :
    (characters.flatMap String.utf8EncodeChar).foldl Scan.step ⟨pieces, none⟩ =
      ⟨(characters.map Piece.scalar).reverse ++ pieces, none⟩ := by
  induction characters generalizing pieces with
  | nil => rfl
  | cons character later ih =>
      rw [List.flatMap_cons, List.foldl_append, steps_char, ih]
      simp

theorem firstFault_scalars (characters : List Char) (index : Nat) :
    firstFault index (characters.map Piece.scalar) = none := by
  induction characters generalizing index with
  | nil => rfl
  | cons character later ih => exact ih _

theorem decode_encode (text : String) : decode (encode text) = .ok text := by
  have read : pieces (encode text) = text.toList.map Piece.scalar := by
    unfold pieces Scan.empty
    rw [encode_chars, steps_chars]
    simp [Scan.finish]
  have characters : (text.toList.map Piece.scalar).map Piece.character = text.toList := by
    rw [List.map_map]
    exact List.map_id _
  simp [decode, read, firstFault_scalars, characters]

end TypeAtlas.Text.Utf8
