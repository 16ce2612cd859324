import Befunge.Direction
import Befunge.Random.ChaCha
import Befunge.Random.Seed

/-!
The random generator. Its words are those of a ChaCha keystream, so that a key, a stream number and
the number of the next word are all of its state.
-/
set_option autoImplicit false

namespace Befunge

structure Generator where
  key : Vector UInt8 32
  stream : UInt64
  -- The number of the next word. There are 2^64 blocks of sixteen words.
  position : BitVec 68
deriving DecidableEq, Repr

namespace Generator

def ofSeed (seed : UInt64) : Generator :=
  ⟨Seed.key seed, 0, 0⟩

-- The key as words, the lowest byte of each first.
def keyWord (g : Generator) (i : Fin 8) : UInt32 :=
  let byte (k : Nat) (small : k < 4) : UInt32 := g.key[4 * i.val + k].toUInt32
  byte 0 (by omega) ||| byte 1 (by omega) <<< 8 ||| byte 2 (by omega) <<< 16 |||
    byte 3 (by omega) <<< 24

def blockAt (g : Generator) (p : BitVec 68) : ChaCha.Square :=
  ChaCha.block g.keyWord (UInt64.ofNat (p.toNat / 16)) g.stream

def wordAt (g : Generator) (p : BitVec 68) : UInt32 :=
  (g.blockAt p).word ⟨p.toNat % 16, Nat.mod_lt _ (by decide)⟩

-- The word of the keystream with this number and the one after it, which are in one block most of
-- the time.
def wordsAt (g : Generator) (p : BitVec 68) : UInt32 × UInt32 :=
  let block := g.blockAt p
  (block.word ⟨p.toNat % 16, Nat.mod_lt _ (by decide)⟩,
    if more : p.toNat % 16 + 1 < 16 then block.word ⟨p.toNat % 16 + 1, more⟩ else g.wordAt (p + 1))

theorem words_at_eq (g : Generator) (p : BitVec 68) :
    g.wordsAt p = (g.wordAt p, g.wordAt (p + 1)) := by
  by_cases more : p.toNat % 16 + 1 < 16
  · have bound := p.isLt
    have after : (p + 1).toNat = p.toNat + 1 := by
      have one : (1 : BitVec 68).toNat = 1 := rfl
      rw [BitVec.toNat_add, one]
      omega
    have place : (p.toNat + 1) % 16 = p.toNat % 16 + 1 := by omega
    have block : (p.toNat + 1) / 16 = p.toNat / 16 := by omega
    simp only [wordsAt, wordAt, blockAt, dif_pos more, after, place, block]
  · simp only [wordsAt, wordAt, dif_neg more]

-- Sixty-four bits from the next two words, the first of them the lower half.
def next (g : Generator) : UInt64 × Generator :=
  let (low, high) := g.wordsAt g.position
  (low.toUInt64 ||| high.toUInt64 <<< 32, { g with position := g.position + 2 })

-- A number below four from sixty-four bits: the two uppermost. Half of all words are refused, the
-- rule being that the lower half of four times the word has to be less than 2^63.
def quarter? (bits : UInt64) : Option (Fin 4) :=
  if bits <<< 2 < 0x8000000000000000 then
    some ⟨(bits >>> 62).toNat % 4, Nat.mod_lt _ (by decide)⟩
  else none

def drawWithin : Nat → Generator → Fin 4 × Generator
  | 0, g => (0, g)
  | tries + 1, g =>
      let (bits, g) := g.next
      match quarter? bits with
      | some k => (k, g)
      | none => drawWithin tries g

-- After so many draws the keystream starts again.
def period : Nat := 1 <<< 67

-- A number below four, each as likely as the others.
def draw (g : Generator) : Fin 4 × Generator :=
  drawWithin period g

def direction (g : Generator) : Direction × Generator :=
  let (k, g) := g.draw
  (Direction.ofIndex k, g)

end Generator

end Befunge
