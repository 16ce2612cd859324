import Befunge.Text.Blocks
import Befunge.Text.Grapheme.Extend
import Befunge.Text.Unprintable

/-!
Quoted characters and texts, in which everything that could not be told apart on a screen is
written as an escape.
-/
set_option autoImplicit false

namespace Befunge.Text

-- The Hangul fillers: letters that stand in the place of a missing one and show nothing.
def isFiller (n : Nat) : Bool :=
  n == 0x115F || n == 0x1160 || n == 0x3164 || n == 0xFFA0

-- The halfwidth sound marks: they belong to the character before them, but are seen beside it.
def isSoundMark (n : Nat) : Bool :=
  n == 0xFF9E || n == 0xFF9F

-- A character that is written by its code point: it has no visible form of its own.
def isUnseen (c : Char) : Bool :=
  let n := c.toNat
  if 0x20 ≤ n && n < 0x7F then false
  else isFiller n || inBlocks unprintable n || (inBlocks graphemeExtend n && !isSoundMark n)

-- The escape by code point, in lower-case hexadecimal without leading zeros.
def codePointEscape (c : Char) : String :=
  "\\u\x7b" ++ String.ofList (Nat.toDigits 16 c.toNat) ++ "\x7d"

-- One character between quotes of the given kind. The other kind of quote stands for itself.
def escaped (quote c : Char) : String :=
  if c = '\x00' then "\\0"
  else if c = '\t' then "\\t"
  else if c = '\r' then "\\r"
  else if c = '\n' then "\\n"
  else if c = '\\' || c = quote then String.ofList ['\\', c]
  else if isUnseen c then codePointEscape c
  else String.singleton c

def quotedChar (c : Char) : String :=
  "'" ++ escaped '\'' c ++ "'"

def quoted (text : String) : String :=
  "\"" ++ String.join (text.toList.map (escaped '"')) ++ "\""

end Befunge.Text
