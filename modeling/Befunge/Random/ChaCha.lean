/-!
The ChaCha stream cipher with eight rounds, as a function from a key, a block number and a stream
number to the sixteen words of a block. The state is a square of words, four rows of four lanes;
adding, xoring and rotating act on whole rows.
-/
set_option autoImplicit false

namespace Befunge.ChaCha

structure Row where
  a : UInt32
  b : UInt32
  c : UInt32
  d : UInt32
deriving DecidableEq, Repr

namespace Row

@[inline] def add (r s : Row) : Row :=
  ⟨r.a + s.a, r.b + s.b, r.c + s.c, r.d + s.d⟩

@[inline] def xor (r s : Row) : Row :=
  ⟨r.a ^^^ s.a, r.b ^^^ s.b, r.c ^^^ s.c, r.d ^^^ s.d⟩

@[inline] def rotateWord (n w : UInt32) : UInt32 :=
  (w <<< n) ||| (w >>> (32 - n))

-- Every word rotated left by `n` bits.
@[inline] def rotate (n : UInt32) (r : Row) : Row :=
  ⟨rotateWord n r.a, rotateWord n r.b, rotateWord n r.c, rotateWord n r.d⟩

-- The lanes moved one place to the left, the first one to the end.
@[inline] def shift (r : Row) : Row :=
  ⟨r.b, r.c, r.d, r.a⟩

def word (r : Row) : Fin 4 → UInt32
  | 0 => r.a
  | 1 => r.b
  | 2 => r.c
  | 3 => r.d

end Row

structure Square where
  r0 : Row
  r1 : Row
  r2 : Row
  r3 : Row
deriving DecidableEq, Repr

namespace Square

def add (s t : Square) : Square :=
  ⟨s.r0.add t.r0, s.r1.add t.r1, s.r2.add t.r2, s.r3.add t.r3⟩

def columnRound (s : Square) : Square :=
  let a := s.r0.add s.r1
  let d := (s.r3.xor a).rotate 16
  let c := s.r2.add d
  let b := (s.r1.xor c).rotate 12
  let a := a.add b
  let d := (d.xor a).rotate 8
  let c := c.add d
  let b := (b.xor c).rotate 7
  ⟨a, b, c, d⟩

-- The diagonals moved into the columns.
@[inline] def slant (s : Square) : Square :=
  ⟨s.r0, s.r1.shift, s.r2.shift.shift, s.r3.shift.shift.shift⟩

-- The columns moved back to the diagonals.
@[inline] def unslant (s : Square) : Square :=
  ⟨s.r0, s.r1.shift.shift.shift, s.r2.shift.shift, s.r3.shift⟩

-- A round on the columns and one on the diagonals.
def doubleRound (s : Square) : Square :=
  s.columnRound.slant.columnRound.unslant

def row (s : Square) : Fin 4 → Row
  | 0 => s.r0
  | 1 => s.r1
  | 2 => s.r2
  | 3 => s.r3

def word (s : Square) (i : Fin 16) : UInt32 :=
  (s.row ⟨i.val / 4, by omega⟩).word ⟨i.val % 4, by omega⟩

end Square

-- The four words that every block starts with.
def constants : Row :=
  ⟨0x61707865, 0x3320646e, 0x79622d32, 0x6b206574⟩

def initial (key : Fin 8 → UInt32) (block stream : UInt64) : Square :=
  { r0 := constants
    r1 := ⟨key 0, key 1, key 2, key 3⟩
    r2 := ⟨key 4, key 5, key 6, key 7⟩
    r3 := ⟨block.toUInt32, (block >>> 32).toUInt32, stream.toUInt32, (stream >>> 32).toUInt32⟩ }

-- The words of a block: the square after eight rounds, added to what it was before.
def block (key : Fin 8 → UInt32) (number stream : UInt64) : Square :=
  let start := initial key number stream
  (Nat.repeat Square.doubleRound 4 start).add start

end Befunge.ChaCha
