import Befunge.Cell
import Befunge.Source

/-!
Program text from bytes, without loss. A text is read back from its UTF-8. Bytes that are the UTF-8 of no
text become one character each, of the same number. Which bytes are UTF-8 is said by the ranges in which
each byte of a character must lie.
-/
set_option autoImplicit false

namespace Befunge

namespace Source

theorem encode_injective (a b : String) (same : encode a = encode b) : a = b := by
  have read := congrArg utf8? same
  simpa only [utf8_encode, Option.some.injEq] using read

theorem encode_of_utf8 (bytes : Bytes) (text : String) (read : utf8? bytes = some text) :
    encode text = bytes := by
  rw [utf8?, String.fromUTF8?] at read
  split at read
  · cases read
    simp [encode, String.fromUTF8]
  · cases read

def Continues (b : UInt8) : Prop :=
  0x80 ≤ b.toNat ∧ b.toNat ≤ 0xBF

-- The bytes of one character. The second byte is bounded further behind some first bytes: below the bound
-- a shorter sequence would do, above it there is a surrogate or no code point at all.
inductive Sequence : Bytes → Prop where
  | one (a : UInt8) (first : a.toNat ≤ 0x7F) : Sequence [a]
  | two (a b : UInt8) (first : 0xC2 ≤ a.toNat ∧ a.toNat ≤ 0xDF) (second : Continues b) : Sequence [a, b]
  | three (a b c : UInt8) (first : 0xE0 ≤ a.toNat ∧ a.toNat ≤ 0xEF) (second : Continues b)
      (shortest : a.toNat = 0xE0 → 0xA0 ≤ b.toNat) (scalar : a.toNat = 0xED → b.toNat ≤ 0x9F)
      (third : Continues c) : Sequence [a, b, c]
  | four (a b c d : UInt8) (first : 0xF0 ≤ a.toNat ∧ a.toNat ≤ 0xF4) (second : Continues b)
      (shortest : a.toNat = 0xF0 → 0x90 ≤ b.toNat) (scalar : a.toNat = 0xF4 → b.toNat ≤ 0x8F)
      (third : Continues c) (fourth : Continues d) : Sequence [a, b, c, d]

inductive WellFormed : Bytes → Prop where
  | nil : WellFormed []
  | cons (first rest : Bytes) (character : Sequence first) (others : WellFormed rest) :
      WellFormed (first ++ rest)

theorem sequence_of_char (c : Char) : Sequence (String.utf8EncodeChar c) := by
  have scalar : c.val.toNat < 0xD800 ∨ 0xDFFF < c.val.toNat ∧ c.val.toNat < 0x110000 := c.valid
  unfold String.utf8EncodeChar
  generalize c.val.toNat = n at scalar
  dsimp only
  split
  · exact .one _ (by rw [UInt8.toNat_ofNat']; omega)
  · split
    · refine .two _ _ ?_ ?_ <;> simp only [Continues, UInt8.toNat_ofNat'] <;> omega
    · split
      · refine .three _ _ _ ?_ ?_ ?_ ?_ ?_ <;> simp only [Continues, UInt8.toNat_ofNat'] <;> omega
      · refine .four _ _ _ _ ?_ ?_ ?_ ?_ ?_ ?_ <;> simp only [Continues, UInt8.toNat_ofNat'] <;> omega

theorem char_of_code (n : Nat) (scalar : n < 0xD800 ∨ 0xDFFF < n ∧ n < 0x110000) :
    ∃ c : Char, c.val.toNat = n :=
  ⟨Char.ofNat n, Cell.code_of_nat n scalar⟩

theorem char_of_sequence (bytes : Bytes) (character : Sequence bytes) :
    ∃ c, String.utf8EncodeChar c = bytes := by
  cases character with
  | one a first =>
      obtain ⟨c, code⟩ := char_of_code a.toNat (by omega)
      refine ⟨c, ?_⟩
      simp only [String.utf8EncodeChar, code, if_pos first, UInt8.ofNat_toNat]
  | two a b first second =>
      obtain ⟨lower, upper⟩ := second
      obtain ⟨c, code⟩ := char_of_code ((a.toNat - 0xC0) * 64 + (b.toNat - 0x80)) (by omega)
      refine ⟨c, ?_⟩
      rw [String.utf8EncodeChar, code, if_neg (by omega), if_pos (by omega)]
      simp only [List.cons.injEq, ← UInt8.toNat_inj, UInt8.toNat_ofNat', and_true]
      omega
  | three a b c first second shortest scalar third =>
      obtain ⟨lower, upper⟩ := second
      obtain ⟨low, high⟩ := third
      obtain ⟨x, code⟩ :=
        char_of_code ((a.toNat - 0xE0) * 4096 + (b.toNat - 0x80) * 64 + (c.toNat - 0x80)) (by omega)
      refine ⟨x, ?_⟩
      rw [String.utf8EncodeChar, code, if_neg (by omega), if_neg (by omega), if_pos (by omega)]
      simp only [List.cons.injEq, ← UInt8.toNat_inj, UInt8.toNat_ofNat', and_true]
      omega
  | four a b c d first second shortest scalar third fourth =>
      obtain ⟨lower, upper⟩ := second
      obtain ⟨low, high⟩ := third
      obtain ⟨least, most⟩ := fourth
      obtain ⟨x, code⟩ := char_of_code
        ((a.toNat - 0xF0) * 262144 + (b.toNat - 0x80) * 4096 + (c.toNat - 0x80) * 64 + (d.toNat - 0x80))
        (by omega)
      refine ⟨x, ?_⟩
      rw [String.utf8EncodeChar, code, if_neg (by omega), if_neg (by omega), if_neg (by omega)]
      simp only [List.cons.injEq, ← UInt8.toNat_inj, UInt8.toNat_ofNat', and_true]
      omega

theorem encode_of_list (chars : List Char) :
    encode (String.ofList chars) = chars.flatMap String.utf8EncodeChar := by
  simp [encode, List.utf8Encode]

theorem well_formed_encode (text : String) : WellFormed (encode text) := by
  obtain ⟨chars, rfl⟩ := text.exists_eq_ofList
  rw [encode_of_list]
  induction chars with
  | nil => exact .nil
  | cons c chars ih => exact .cons _ _ (sequence_of_char c) ih

theorem text_of_well_formed (bytes : Bytes) (formed : WellFormed bytes) : ∃ text, encode text = bytes := by
  induction formed with
  | nil => exact ⟨"", rfl⟩
  | cons first rest character others ih =>
      obtain ⟨c, rfl⟩ := char_of_sequence first character
      obtain ⟨text, rfl⟩ := ih
      obtain ⟨chars, rfl⟩ := text.exists_eq_ofList
      exact ⟨String.ofList (c :: chars), by rw [encode_of_list, encode_of_list, List.flatMap_cons]⟩

theorem utf8_eq_none_iff (bytes : Bytes) : utf8? bytes = none ↔ ∀ text, encode text ≠ bytes := by
  rw [Option.eq_none_iff_forall_ne_some]
  refine forall_congr' fun text => not_congr ⟨encode_of_utf8 bytes text, ?_⟩
  rintro rfl
  exact utf8_encode text

theorem utf8_decode_iff (bytes : Bytes) : (decode bytes).utf8 = true ↔ ∃ text, encode text = bytes := by
  rw [decode]
  cases read : utf8? bytes with
  | none => simp [(utf8_eq_none_iff bytes).1 read]
  | some text => exact iff_of_true rfl ⟨text, encode_of_utf8 bytes text read⟩

theorem value_of_byte (b : UInt8) : (Cell.value (Char.ofNat b.toNat)).toInt = b.toNat := by
  have small : b.toNat < 256 := b.toNat_lt
  rw [Cell.to_int_value, Cell.code_of_nat b.toNat (by left; omega)]

theorem values_latin1 (bytes : Bytes) :
    (latin1 bytes).toList.map (fun c => (Cell.value c).toInt) = bytes.map fun b => (b.toNat : Int) := by
  rw [latin1, String.toList_ofList, List.map_map]
  exact List.map_congr_left fun b _ => value_of_byte b

theorem decoding_is_lossless :
    (∀ text, decode (encode text) = ⟨true, text⟩) ∧
    (∀ bytes, (∀ text, encode text ≠ bytes) →
      (decode bytes).utf8 = false ∧
      (decode bytes).text.toList.map (fun c => (Cell.value c).toInt) = bytes.map fun b => (b.toNat : Int)) ∧
    ∀ bytes, ((decode bytes).utf8 = true ↔ ∃ text, encode text = bytes) ∧
      ((∃ text, encode text = bytes) ↔ WellFormed bytes) := by
  refine ⟨decode_encode, ?_, ?_⟩
  · intro bytes foreign
    rw [decode, (utf8_eq_none_iff bytes).2 foreign]
    exact ⟨rfl, values_latin1 bytes⟩
  · intro bytes
    refine ⟨utf8_decode_iff bytes, ?_, text_of_well_formed bytes⟩
    rintro ⟨text, rfl⟩
    exact well_formed_encode text

-- In turn: a form that is too long, a surrogate, a number past the last code point, a byte that continues
-- nothing, one that nothing continues, and a character cut short.
def malformed : List Bytes :=
  [[0xC0, 0x80], [0xED, 0xA0, 0x80], [0xF4, 0x90, 0x80, 0x80], [0x40, 0x80], [0xE2, 0x28, 0xA1], [0xE2, 0x82]]

theorem decoding_is_lossless_of_malformed_bytes :
    decode [0xF0, 0x9F, 0x98, 0x80, 0x40] = ⟨true, "😀@"⟩ ∧
    ∀ bytes ∈ malformed, (∀ text, encode text ≠ bytes) ∧ ¬ WellFormed bytes ∧
      (decode bytes).text.toList.map (fun c => (Cell.value c).toInt) = bytes.map fun b => (b.toNat : Int) := by
  obtain ⟨texts, others, known⟩ := decoding_is_lossless
  refine ⟨texts "😀@", ?_⟩
  intro bytes member
  have unread : ∀ bytes ∈ malformed, (decode bytes).utf8 = false := by decide +kernel
  have foreign : ¬ ∃ text, encode text = bytes := by
    rw [← (known bytes).1, unread bytes member]
    exact Bool.false_ne_true
  exact ⟨not_exists.1 foreign, mt (known bytes).2.2 foreign, (others bytes (not_exists.1 foreign)).2⟩

end Source

end Befunge
