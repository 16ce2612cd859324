import Befunge.Text.Blocks
import Befunge.Text.Grapheme.Consonant
import Befunge.Text.Grapheme.Extend
import Befunge.Text.Grapheme.Pictographic
import Befunge.Text.Grapheme.SpacingMark

/-!
The classes of characters that decide where one grapheme cluster ends and the next begins: the Unicode
property Grapheme_Cluster_Break, refined by the pictographs and by the consonants of conjuncts.
-/
set_option autoImplicit false

namespace Befunge.Text.Grapheme

inductive Class where
  -- Everything that no rule speaks of.
  | plain
  | carriageReturn
  | lineFeed
  | control
  | extend
  | joiner
  -- Half of a flag.
  | regional
  | prepend
  | spacing
  -- A Hangul consonant at the beginning of a syllable.
  | leading
  | vowel
  -- A Hangul consonant at the end of a syllable.
  | trailing
  -- A Hangul syllable of a consonant and a vowel.
  | openSyllable
  -- A Hangul syllable with a consonant at its end.
  | closedSyllable
  | pictograph
  | consonant
deriving DecidableEq, Repr, Inhabited

-- The first and last code point of each block of format characters, separators and ignorable
-- unassigned characters that neither extend a cluster nor begin one.
def controls : Array (Nat × Nat) := #[
  (0x0, 0x1F), (0x7F, 0x9F), (0xAD, 0xAD), (0x61C, 0x61C), (0x180E, 0x180E), (0x200B, 0x200B),
  (0x200E, 0x200F), (0x2028, 0x202E), (0x2060, 0x206F), (0xFEFF, 0xFEFF), (0xFFF0, 0xFFFB),
  (0x13430, 0x1343F), (0x1BCA0, 0x1BCA3), (0x1D173, 0x1D17A), (0xE0000, 0xE001F),
  (0xE0080, 0xE00FF), (0xE01F0, 0xE0FFF)]

-- The first and last code point of each block of signs written before the character they belong to.
def prepended : Array (Nat × Nat) := #[
  (0x600, 0x605), (0x6DD, 0x6DD), (0x70F, 0x70F), (0x890, 0x891), (0x8E2, 0x8E2), (0xD4E, 0xD4E),
  (0x110BD, 0x110BD), (0x110CD, 0x110CD), (0x111C2, 0x111C3), (0x113D1, 0x113D1),
  (0x1193F, 0x1193F), (0x11941, 0x11941), (0x11A84, 0x11A89), (0x11D46, 0x11D46),
  (0x11F02, 0x11F02)]

def leadings : Array (Nat × Nat) := #[(0x1100, 0x115F), (0xA960, 0xA97C)]

def vowels : Array (Nat × Nat) := #[
  (0x1160, 0x11A7), (0xD7B0, 0xD7C6), (0x16D63, 0x16D63), (0x16D67, 0x16D6A)]

def trailings : Array (Nat × Nat) := #[(0x11A8, 0x11FF), (0xD7CB, 0xD7FB)]

-- The number of syllables that one consonant and one vowel begin: one without a consonant at its
-- end, which comes first, and one for each such consonant.
def syllablesPerVowel : Nat := 28

-- The signs that tie the consonant before them to the one behind them.
def linkers : List Nat :=
  [0x94D, 0x9CD, 0xACD, 0xB4D, 0xC4D, 0xD4D, 0x1039, 0x17D2, 0x1A60, 0x1B44, 0x1BAB, 0xA9C0, 0xAAF6,
    0x10A3F, 0x11133, 0x113D0, 0x1193E, 0x11A47, 0x11A99, 0x11F42]

-- The class of a character that is none of printing ASCII.
def classOfCode (n : Nat) : Class :=
  if n = 0x0D then .carriageReturn
  else if n = 0x0A then .lineFeed
  else if n = 0x200D then .joiner
  else if inBlocks controls n then .control
  else if inBlocks graphemeExtend n || (0x1F3FB ≤ n && n ≤ 0x1F3FF) then .extend
  else if 0x1F1E6 ≤ n && n ≤ 0x1F1FF then .regional
  else if inBlocks prepended n then .prepend
  else if inBlocks spacingMark n then .spacing
  else if inBlocks leadings n then .leading
  else if inBlocks vowels n then .vowel
  else if inBlocks trailings n then .trailing
  else if 0xAC00 ≤ n && n ≤ 0xD7A3 then
    if (n - 0xAC00) % syllablesPerVowel = 0 then .openSyllable else .closedSyllable
  else if inBlocks conjunctConsonant n then .consonant
  else if inBlocks pictographic n then .pictograph
  else .plain

def classOf (c : Char) : Class :=
  if 0x20 ≤ c.toNat && c.toNat < 0x7F then .plain else classOfCode c.toNat

def isLinker (c : Char) : Bool :=
  linkers.contains c.toNat

-- Whether a mark may stand in a conjunct, between a consonant and the next. The zero-width
-- non-joiner may not.
def isConjunctMark (c : Char) : Bool :=
  (classOf c == .extend || classOf c == .joiner) && c != '\u200C'

end Befunge.Text.Grapheme
