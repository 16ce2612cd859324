/-!
White space and control characters, as the Unicode properties White_Space and Cc have them, and
the cut of a line into words.
-/
set_option autoImplicit false

namespace Befunge.Text

-- The twenty-five code points of the Unicode property White_Space.
def isBlank (c : Char) : Bool :=
  let n := c.toNat
  (9 ≤ n && n ≤ 13) || n == 0x20 || n == 0x85 || n == 0xA0 || n == 0x1680 ||
    (0x2000 ≤ n && n ≤ 0x200A) || n == 0x2028 || n == 0x2029 || n == 0x202F || n == 0x205F ||
    n == 0x3000

-- The general category Cc: C0, DEL and C1.
def isControl (c : Char) : Bool :=
  let n := c.toNat
  n < 0x20 || (0x7F ≤ n && n ≤ 0x9F)

def isBlankLine (line : String) : Bool :=
  line.toList.all isBlank

def runs (line : String) : List (List Char) :=
  line.toList.splitBy fun a b => isBlank a == isBlank b

-- A run is blank or a word; all of its characters are alike, so the first decides.
def isBlankRun : List Char → Bool
  | [] => true
  | c :: _ => isBlank c

def words (line : String) : List String :=
  ((runs line).filter (!isBlankRun ·)).map String.ofList

theorem is_blank_of_is_whitespace (c : Char) (white : c.isWhitespace = true) : isBlank c = true := by
  simp only [Char.isWhitespace, Bool.or_eq_true, decide_eq_true_eq] at white
  rcases white with ((rfl | rfl) | rfl) | rfl <;> decide

end Befunge.Text
