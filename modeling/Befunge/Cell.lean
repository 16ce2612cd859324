/-!
What a cell holds and what the stack holds. A cell is one character; read as a value it is its
code point, and a value written back that is no code point of a character becomes U+FFFD.
-/
set_option autoImplicit false

namespace Befunge

-- A stack value: a signed word of 64 bits, whose arithmetic wraps.
abbrev Value := Int64

namespace Cell

-- The character stored for a value that is no code point of a character.
def replacement : Char := '\uFFFD'

def value (c : Char) : Value :=
  Int64.ofNat c.toNat

-- The character with this code point: negative values, surrogates and values past U+10FFFF have
-- none.
def ofValue (v : Value) : Char :=
  let n := v.toInt
  if 0 ≤ n ∧ n.toNat.isValidChar then Char.ofNat n.toNat else replacement

theorem code_of_nat (n : Nat) (valid : n.isValidChar) : (Char.ofNat n).toNat = n := by
  rw [Char.ofNat, dif_pos valid]
  rfl

theorem to_int_value (c : Char) : (value c).toInt = c.toNat := by
  have valid : c.toNat.isValidChar := c.valid
  rw [Nat.isValidChar] at valid
  exact Int64.toInt_ofNat_of_lt (by omega)

theorem of_value_value (c : Char) : ofValue (value c) = c := by
  have valid : c.toNat.isValidChar := c.valid
  simp only [ofValue, to_int_value]
  rw [if_pos ⟨Int.natCast_nonneg _, valid⟩, Int.toNat_natCast, Char.ofNat_toNat]

end Cell

end Befunge
