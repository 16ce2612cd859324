import Befunge.Cell

/-!
Operations on stack values. They wrap, and dividing by zero yields zero.
-/
set_option autoImplicit false

namespace Befunge.Arithmetic

-- The quotient, truncated.
def quotient (b a : Value) : Value :=
  if a = 0 then 0 else b / a

-- The remainder, with the sign of `b`.
def remainder (b a : Value) : Value :=
  if a = 0 then 0 else b % a

def truth (p : Prop) [Decidable p] : Value :=
  if p then 1 else 0

end Befunge.Arithmetic
