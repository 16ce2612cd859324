import Mathlib.Algebra.Group.Int.Defs
import Mathlib.Algebra.Group.Nat.Defs
import Mathlib.Data.List.Induction
import Befunge.MessagePack.Decode

/-!
Numbers of a fixed width: what is written can be read back, and what is read is of that width.
-/
set_option autoImplicit false

namespace Befunge.MessagePack

@[simp] theorem length_big_endian (width n : Nat) : (bigEndian width n).length = width := by
  induction width generalizing n with
  | zero => rfl
  | succ width ih => simp [bigEndian, ih]

theorem of_big_endian_append_singleton (bytes : Bytes) (b : UInt8) :
    ofBigEndian (bytes ++ [b]) = 256 * ofBigEndian bytes + b.toNat := by
  simp [ofBigEndian]

theorem two_pow_width_succ (width : Nat) : 2 ^ (8 * (width + 1)) = 256 * 2 ^ (8 * width) := by
  rw [Nat.mul_add, Nat.pow_add, Nat.mul_comm]

theorem of_big_endian_big_endian (width n : Nat) (fits : n < 2 ^ (8 * width)) :
    ofBigEndian (bigEndian width n) = n := by
  induction width generalizing n with
  | zero =>
      have zero : n = 0 := by simpa using fits
      simp [zero, bigEndian, ofBigEndian]
  | succ width ih =>
      rw [two_pow_width_succ] at fits
      have upper := ih (n / 256) (by omega)
      have lower : n.toUInt8.toNat = n % 256 := UInt8.toNat_ofNat'
      rw [bigEndian, of_big_endian_append_singleton, upper, lower]
      omega

theorem of_big_endian_lt (bytes : Bytes) : ofBigEndian bytes < 2 ^ (8 * bytes.length) := by
  induction bytes using List.reverseRecOn with
  | nil => simp [ofBigEndian]
  | append_singleton bytes b ih =>
      have byte := b.toNat_lt
      rw [of_big_endian_append_singleton, List.length_append, List.length_singleton, two_pow_width_succ]
      omega

theorem two_pow_width_half (width : Nat) : 2 ^ (8 * (width + 1)) = 2 * 2 ^ (8 * (width + 1) - 1) := by
  rw [← Nat.pow_succ']
  congr 1

theorem twos_complement_lt (width : Nat) (i : Int) : twosComplement width i < 2 ^ (8 * width) := by
  have positive : (0 : Int) < (2 ^ (8 * width) : Nat) := by exact_mod_cast Nat.two_pow_pos _
  have upper := Int.emod_lt_of_pos i positive
  have lower := Int.emod_nonneg i (Int.ne_of_gt positive)
  rw [twosComplement, Nat.one_shiftLeft]
  omega

theorem of_twos_complement_twos_complement (width : Nat) (i : Int)
    (lower : -(2 ^ (8 * (width + 1) - 1) : Nat) ≤ i) (upper : i < (2 ^ (8 * (width + 1) - 1) : Nat)) :
    ofTwosComplement (width + 1) (twosComplement (width + 1) i) = i := by
  have half := two_pow_width_half width
  rw [ofTwosComplement, twosComplement, Nat.one_shiftLeft, Nat.one_shiftLeft]
  generalize 2 ^ (8 * (width + 1) - 1) = bound at *
  rw [half]
  by_cases negative : i < 0
  · have residue : i % ((2 * bound : Nat) : Int) = i + (2 * bound : Nat) := by
      rw [← Int.add_emod_right]
      exact Int.emod_eq_of_lt (by omega) (by omega)
    rw [residue, if_neg (by omega)]
    omega
  · have residue : i % ((2 * bound : Nat) : Int) = i := Int.emod_eq_of_lt (by omega) (by omega)
    rw [residue, if_pos (by omega)]
    omega

theorem of_twos_complement_bounds (width n : Nat) (fits : n < 2 ^ (8 * (width + 1))) :
    -(2 ^ (8 * (width + 1) - 1) : Nat) ≤ ofTwosComplement (width + 1) n ∧
      ofTwosComplement (width + 1) n < (2 ^ (8 * (width + 1) - 1) : Nat) := by
  have half := two_pow_width_half width
  rw [ofTwosComplement, Nat.one_shiftLeft, Nat.one_shiftLeft]
  generalize 2 ^ (8 * (width + 1) - 1) = bound at *
  rw [half] at fits ⊢
  by_cases small : n < bound
  · rw [if_pos small]
    omega
  · rw [if_neg small]
    omega

theorem split_append (taken rest : Bytes) : split? taken.length (taken ++ rest) = some (taken, rest) := by
  simp [split?]

theorem split_eq_some (n : Nat) (bytes taken rest : Bytes) (split : split? n bytes = some (taken, rest)) :
    taken.length = n ∧ bytes = taken ++ rest := by
  simp only [split?] at split
  split at split
  · rename_i size
    simp only [Option.some.injEq, Prod.mk.injEq] at split
    rw [← split.1, ← split.2]
    exact ⟨size, (List.take_append_drop n bytes).symm⟩
  · cases split

theorem read_nat_big_endian (width n : Nat) (rest : Bytes) (fits : n < 2 ^ (8 * width)) :
    readNat width (bigEndian width n ++ rest) = some (n, rest) := by
  have split := split_append (bigEndian width n) rest
  rw [length_big_endian] at split
  simp only [readNat, split, Option.map_some, of_big_endian_big_endian width n fits]

theorem read_nat_lt (width n : Nat) (bytes rest : Bytes) (read : readNat width bytes = some (n, rest)) :
    n < 2 ^ (8 * width) := by
  obtain ⟨⟨taken, left⟩, split, same⟩ := Option.map_eq_some_iff.1 read
  have size := (split_eq_some width bytes taken left split).1
  rw [Prod.mk.injEq] at same
  rw [← same.1, ← size]
  exact of_big_endian_lt taken

end Befunge.MessagePack
