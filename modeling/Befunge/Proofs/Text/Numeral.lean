import Mathlib.Algebra.Group.Int.Defs
import Mathlib.Algebra.Group.Nat.Defs
import Befunge.Proofs.Text.Words
import Befunge.Text.Number

/-!
Numerals as they are read: an optional plus sign and ASCII digits. What is written in decimal is read as the
number that it was.
-/
set_option autoImplicit false

namespace Befunge.Text

-- The word spells the number. It may have any number of zeros in front.
inductive Numeral (word : String) (n : Nat) : Prop where
  | spelled (sign digits : List Char) (signed : sign = [] ∨ sign = ['+']) (word_eq : word.toList = sign ++ digits)
      (nonempty : digits ≠ []) (ascii : ∀ d ∈ digits, d.isDigit = true) (value : Nat.ofDigitChars 10 digits 0 = n)
      (fits : n < 2 ^ 64)

def IsNumeral (word : String) : Prop :=
  ∃ n, Numeral word n

theorem digits_eq_some_iff (text : List Char) (n : Nat) :
    digits? text = some n ↔
      text ≠ [] ∧ (∀ d ∈ text, d.isDigit = true) ∧ Nat.ofDigitChars 10 text 0 = n := by
  rw [digits?]
  cases text with
  | nil => simp
  | cons d rest => simp [digitsValue, Nat.ofDigitChars, and_assoc]

theorem unsigned_of_digits (digits : List Char) (nonempty : digits ≠ []) (ascii : ∀ d ∈ digits, d.isDigit = true) :
    unsigned? digits = digits? digits := by
  cases digits with
  | nil => exact absurd rfl nonempty
  | cons d rest =>
      unfold unsigned?
      split
      · rename_i same
        cases same
        exact absurd (ascii '+' List.mem_cons_self) (by decide)
      · rfl

theorem unsigned_eq_some_iff (text : List Char) (n : Nat) :
    unsigned? text = some n ↔ ∃ sign digits, (sign = [] ∨ sign = ['+']) ∧ text = sign ++ digits ∧
      digits? digits = some n := by
  constructor
  · intro read
    unfold unsigned? at read
    split at read
    · rename_i rest
      exact ⟨['+'], rest, .inr rfl, rfl, read⟩
    · exact ⟨[], text, .inl rfl, rfl, read⟩
  · rintro ⟨sign, digits, signed, rfl, read⟩
    rcases signed with rfl | rfl
    · obtain ⟨nonempty, ascii, _⟩ := (digits_eq_some_iff digits n).1 read
      rw [List.nil_append, unsigned_of_digits digits nonempty ascii, read]
    · exact read

theorem natural_eq_some_iff (word : String) (n : Nat) : natural? word = some n ↔ Numeral word n := by
  rw [natural?, Option.filter_eq_some_iff, unsigned_eq_some_iff]
  constructor
  · rintro ⟨⟨sign, digits, signed, spelled, read⟩, fits⟩
    obtain ⟨nonempty, ascii, value⟩ := (digits_eq_some_iff digits n).1 read
    exact ⟨sign, digits, signed, spelled, nonempty, ascii, value, of_decide_eq_true fits⟩
  · rintro ⟨sign, digits, signed, spelled, nonempty, ascii, value, fits⟩
    exact ⟨⟨sign, digits, signed, spelled, (digits_eq_some_iff digits n).2 ⟨nonempty, ascii, value⟩⟩,
      decide_eq_true fits⟩

theorem natural_is_some_iff (word : String) : (natural? word).isSome = true ↔ IsNumeral word := by
  rw [Option.isSome_iff_exists, IsNumeral]
  exact exists_congr (natural_eq_some_iff word)

instance (word : String) (n : Nat) : Decidable (Numeral word n) :=
  decidable_of_iff _ (natural_eq_some_iff word n)

instance (word : String) : Decidable (IsNumeral word) :=
  decidable_of_iff _ (natural_is_some_iff word)

theorem lt_of_numeral (word : String) (n : Nat) (numeral : Numeral word n) : n < 2 ^ 64 := by
  obtain ⟨_, _, _, _, _, _, _, fits⟩ := numeral
  exact fits

theorem numeral_to_string (n : Nat) (fits : n < 2 ^ 64) : Numeral (toString n) n := by
  refine .spelled [] (Nat.toDigits 10 n) (.inl rfl) ?_ Nat.toDigits_ne_nil ?_ Nat.ofDigitChars_ten_toDigits fits
  · rw [Nat.toString_eq_ofList_toDigits, String.toList_ofList, List.nil_append]
  · exact fun d member => Nat.isDigit_of_mem_toDigits (by decide) (by decide) member

theorem is_word_to_string (n : Nat) : IsWord (toString n).toList := by
  rw [Nat.toString_eq_ofList_toDigits, String.toList_ofList]
  refine ⟨Nat.toDigits_ne_nil, fun d member => ?_⟩
  have digit := Nat.isDigit_of_mem_toDigits (by decide) (by decide) member
  rw [Char.isDigit, Bool.and_eq_true, decide_eq_true_eq, decide_eq_true_eq] at digit
  have least : 48 ≤ d.toNat := digit.1
  have most : d.toNat ≤ 57 := digit.2
  simp only [isBlank, Bool.or_eq_false_iff, Bool.and_eq_false_iff, decide_eq_false_iff_not, beq_eq_false_iff_ne]
  omega

-- The word spells the number with or without a sign.
inductive SignedNumeral (word : String) (n : Int) : Prop where
  | spelled (sign digits : List Char) (signed : sign ∈ [[], ['+'], ['-']]) (word_eq : word.toList = sign ++ digits)
      (nonempty : digits ≠ []) (ascii : ∀ d ∈ digits, d.isDigit = true)
      (value : (if sign = ['-'] then -(Nat.ofDigitChars 10 digits 0 : Int) else Nat.ofDigitChars 10 digits 0) = n)
      (fits : -2 ^ 63 ≤ n ∧ n < 2 ^ 63)

def IsSignedNumeral (word : String) : Prop :=
  ∃ n, SignedNumeral word n

theorem integer_of_minus (word : String) (rest : List Char) (minus : word.toList = '-' :: rest) (n : Int) :
    integer? word = some n ↔ ∃ k, digits? rest = some k ∧ k ≤ 2 ^ 63 ∧ -(k : Int) = n := by
  rw [integer?, minus]
  simp only [Option.map_eq_some_iff, Option.filter_eq_some_iff, decide_eq_true_eq, and_assoc]
  rfl

theorem integer_of_unsigned (word : String) (other : ∀ rest, word.toList ≠ '-' :: rest) (n : Int) :
    integer? word = some n ↔ ∃ k, unsigned? word.toList = some k ∧ k < 2 ^ 63 ∧ (k : Int) = n := by
  unfold integer?
  split
  · rename_i rest minus
    exact absurd minus (other rest)
  · simp only [Option.map_eq_some_iff, Option.filter_eq_some_iff, decide_eq_true_eq, and_assoc]
    rfl

theorem integer_eq_some_iff (word : String) (n : Int) : integer? word = some n ↔ SignedNumeral word n := by
  constructor
  · intro read
    by_cases minus : ∃ rest, word.toList = '-' :: rest
    · obtain ⟨rest, minus⟩ := minus
      obtain ⟨k, digits, small, rfl⟩ := (integer_of_minus word rest minus n).1 read
      obtain ⟨nonempty, ascii, value⟩ := (digits_eq_some_iff rest k).1 digits
      exact ⟨['-'], rest, by decide, minus, nonempty, ascii, by rw [if_pos rfl, value], by omega, by omega⟩
    · obtain ⟨k, unsigned, small, rfl⟩ := (integer_of_unsigned word (not_exists.1 minus) n).1 read
      obtain ⟨sign, digits, signed, spelled, number⟩ := (unsigned_eq_some_iff word.toList k).1 unsigned
      obtain ⟨nonempty, ascii, value⟩ := (digits_eq_some_iff digits k).1 number
      have noMinus : sign ≠ ['-'] := by rcases signed with rfl | rfl <;> decide
      refine ⟨sign, digits, ?_, spelled, nonempty, ascii, by rw [if_neg noMinus, value], by omega, by omega⟩
      rcases signed with rfl | rfl <;> decide
  · rintro ⟨sign, digits, signed, spelled, nonempty, ascii, value, least, most⟩
    have number := (digits_eq_some_iff digits _).2 ⟨nonempty, ascii, rfl⟩
    by_cases minus : sign = ['-']
    · subst minus
      rw [if_pos rfl] at value
      exact (integer_of_minus word digits spelled n).2 ⟨_, number, by omega, value⟩
    · rw [if_neg minus] at value
      have noMinus : sign = [] ∨ sign = ['+'] := by simpa [minus] using signed
      have other : ∀ rest, word.toList ≠ '-' :: rest := by
        intro rest same
        rw [spelled] at same
        rcases noMinus with rfl | rfl
        · have digit := ascii '-' (by rw [show digits = '-' :: rest from same]; exact List.mem_cons_self)
          cases digit
        · cases same
      exact (integer_of_unsigned word other n).2
        ⟨_, (unsigned_eq_some_iff _ _).2 ⟨sign, digits, noMinus, spelled, number⟩, by omega, value⟩

theorem integer_is_some_iff (word : String) : (integer? word).isSome = true ↔ IsSignedNumeral word := by
  rw [Option.isSome_iff_exists, IsSignedNumeral]
  exact exists_congr (integer_eq_some_iff word)

instance (word : String) : Decidable (IsSignedNumeral word) :=
  decidable_of_iff _ (integer_is_some_iff word)

end Befunge.Text
