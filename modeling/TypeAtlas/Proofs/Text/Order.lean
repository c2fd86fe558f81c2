import Mathlib.Data.String.Basic
import TypeAtlas.Proofs.Text.Utf8

/-!
The order of texts by their characters is that of their bytes. Where two characters differ, their
bytes differ before either encoding ends, and the lesser character has the lesser byte there.
-/

namespace TypeAtlas.Text.Utf8

set_option autoImplicit false

/-- The bytes are the same up to a place where both sides have one, the left side the lesser. -/
inductive Parts : List UInt8 → List UInt8 → Prop where
  | here {low high : UInt8} (after behind : List UInt8) :
      low < high → Parts (low :: after) (high :: behind)
  | later {left right : List UInt8} (byte : UInt8) :
      Parts left right → Parts (byte :: left) (byte :: right)

theorem lt_of_parts {left right : List UInt8} (parts : Parts left right)
    (after behind : List UInt8) : left ++ after < right ++ behind := by
  induction parts with
  | here _ _ less => exact List.Lex.rel less
  | later _ _ ih => exact List.Lex.cons ih

theorem parts_lead {low high : Nat} (less : low < high) (byte : high < 256)
    (after behind : List UInt8) :
    Parts (UInt8.ofNat low :: after) (UInt8.ofNat high :: behind) :=
  .here after behind ((UInt8.ofNat_lt_iff_lt (Nat.lt_trans less byte) byte).mpr less)

/-- Bytes that carry the digits of two numbers part where the digits do. -/
theorem parts_digit {low high : Nat} {after behind : List UInt8} (byte : high < 256)
    (ordered : low ≤ high) (rest : low = high → Parts after behind) :
    Parts (UInt8.ofNat low :: after) (UInt8.ofNat high :: behind) := by
  by_cases same : low = high
  · rw [same]
    exact .later _ (rest same)
  · exact parts_lead (by omega) byte after behind

/-- Of two encodings of different lengths the longer one has the greater lead byte; of two of the
same length the bytes are the digits of the values to base 64. -/
theorem parts_of_lt {left right : Char} (less : left < right) :
    Parts (String.utf8EncodeChar left) (String.utf8EncodeChar right) := by
  have values : left.val.toNat < right.val.toNat := less
  have bound : right.val.toNat < 0x110000 := by
    have valid : right.val.toNat < 0xD800 ∨
        0xDFFF < right.val.toNat ∧ right.val.toNat < 0x110000 := right.valid
    omega
  unfold String.utf8EncodeChar
  dsimp only
  generalize left.val.toNat = low at values
  generalize right.val.toNat = high at values bound
  by_cases one : high ≤ 0x7f
  · rw [if_pos one, if_pos (by omega : low ≤ 0x7f)]
    exact parts_lead values (by omega) _ _
  rw [if_neg one]
  by_cases two : high ≤ 0x7ff
  · rw [if_pos two]
    by_cases single : low ≤ 0x7f
    · rw [if_pos single]
      exact parts_lead (by omega) (by omega) _ _
    · rw [if_neg single, if_pos (by omega : low ≤ 0x7ff)]
      exact parts_digit (by omega) (by omega) fun _ => parts_lead (by omega) (by omega) _ _
  rw [if_neg two]
  by_cases three : high ≤ 0xffff
  · rw [if_pos three]
    by_cases single : low ≤ 0x7f
    · rw [if_pos single]
      exact parts_lead (by omega) (by omega) _ _
    by_cases double : low ≤ 0x7ff
    · rw [if_neg single, if_pos double]
      exact parts_lead (by omega) (by omega) _ _
    · rw [if_neg single, if_neg double, if_pos (by omega : low ≤ 0xffff)]
      exact parts_digit (by omega) (by omega) fun _ => parts_digit (by omega) (by omega) fun _ =>
        parts_lead (by omega) (by omega) _ _
  rw [if_neg three]
  by_cases single : low ≤ 0x7f
  · rw [if_pos single]
    exact parts_lead (by omega) (by omega) _ _
  by_cases double : low ≤ 0x7ff
  · rw [if_neg single, if_pos double]
    exact parts_lead (by omega) (by omega) _ _
  by_cases triple : low ≤ 0xffff
  · rw [if_neg single, if_neg double, if_pos triple]
    exact parts_lead (by omega) (by omega) _ _
  · rw [if_neg single, if_neg double, if_neg triple]
    exact parts_digit (by omega) (by omega) fun _ => parts_digit (by omega) (by omega) fun _ =>
      parts_digit (by omega) (by omega) fun _ => parts_lead (by omega) (by omega) _ _

theorem flatMap_lt {left right : List Char} (less : left < right) :
    left.flatMap String.utf8EncodeChar < right.flatMap String.utf8EncodeChar := by
  induction less with
  | @nil first later =>
      obtain ⟨byte, rest, spelled⟩ :=
        List.exists_cons_of_ne_nil (String.utf8EncodeChar_ne_nil (c := first))
      rw [List.flatMap_nil, List.flatMap_cons, spelled]
      exact List.nil_lt_cons byte _
  | cons _ ih =>
      rw [List.flatMap_cons, List.flatMap_cons]
      exact List.append_left_lt ih
  | rel less =>
      rw [List.flatMap_cons, List.flatMap_cons]
      exact lt_of_parts (parts_of_lt less) _ _

theorem encode_lt_of_lt {left right : String} (less : left < right) :
    encode left < encode right := by
  rw [encode_chars, encode_chars]
  exact flatMap_lt (String.lt_iff_toList_lt.mp less)

theorem encode_lt_iff {left right : String} : encode left < encode right ↔ left < right := by
  constructor
  · intro bytes
    rcases lt_trichotomy left right with less | same | greater
    · exact less
    · rw [same] at bytes
      exact absurd bytes (List.lt_irrefl _)
    · exact absurd (encode_lt_of_lt greater) (List.lt_asymm bytes)
  · exact encode_lt_of_lt

theorem encode_le_iff {left right : String} : encode left ≤ encode right ↔ left ≤ right := by
  rw [← not_lt (a := right), ← encode_lt_iff]
  rfl

end TypeAtlas.Text.Utf8
