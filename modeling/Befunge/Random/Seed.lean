/-!
Keys from seeds. A 64-bit seed is stretched to the thirty-two bytes of a key by a permuted linear
congruential sequence, four bytes from each of its first eight states.
-/
set_option autoImplicit false

namespace Befunge.Seed

def next (state : UInt64) : UInt64 :=
  state * 6364136223846793005 + 11634580027462260723

def word (state : UInt64) : UInt32 :=
  let folded := (((state >>> 18) ^^^ state) >>> 27).toUInt32
  let turn := (state >>> 59).toUInt32
  (folded >>> turn) ||| (folded <<< ((32 - turn) % 32))

-- A word's bytes, the lowest one first.
def byte (w : UInt32) (i : Nat) : UInt8 :=
  (w.toNat >>> (8 * i)).toUInt8

def key (seed : UInt64) : Vector UInt8 32 :=
  Vector.ofFn fun i => byte (word (Nat.repeat next (i.val / 4 + 1) seed)) (i.val % 4)

end Befunge.Seed
