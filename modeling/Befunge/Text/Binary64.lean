import Befunge.Text.Number

/-!
Quotients of natural numbers as a binary floating-point unit with 53 significant bits gives them,
and their text with three decimals. Every rounding is to nearest, and a tie goes to the even
neighbour.
-/
set_option autoImplicit false

namespace Befunge.Text

def roundDiv (num den : Nat) : Nat :=
  let q := num / den
  let r := num % den
  if 2 * r < den then q
  else if den < 2 * r then q + 1
  else if q % 2 = 0 then q else q + 1

structure Fraction where
  num : Nat
  den : Nat
deriving DecidableEq, Repr

-- The fraction `f · 2 ^ e`.
def Fraction.scale (f : Fraction) (e : Int) : Fraction :=
  if 0 ≤ e then { f with num := f.num <<< e.toNat } else { f with den := f.den <<< (-e).toNat }

-- The exponent that brings a positive fraction between 2^52 and 2^53 when it is scaled down by it.
def Fraction.exponent (f : Fraction) : Int :=
  let guess := (f.num.log2 : Int) - f.den.log2 - 52
  let scaled := f.scale (-guess)
  if scaled.num < scaled.den <<< 52 then guess - 1 else guess

def Fraction.toBinary64 (f : Fraction) : Fraction :=
  if f.num = 0 then ⟨0, 1⟩ else
    let scaled := f.scale (-f.exponent)
    Fraction.scale ⟨roundDiv scaled.num scaled.den, 1⟩ f.exponent

-- The floating-point quotient of two naturals, the first rounded before it is divided.
def binaryQuotient (num den : Nat) : Fraction :=
  let rounded := (Fraction.mk num 1).toBinary64
  (Fraction.mk rounded.num (rounded.den * den)).toBinary64

def Fraction.toThreeDecimals (f : Fraction) : String :=
  let thousandths := roundDiv (1000 * f.num) f.den
  toString (thousandths / 1000) ++ "." ++ zeroPadded 3 (thousandths % 1000)

end Befunge.Text
