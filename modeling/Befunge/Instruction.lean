/-!
The instruction set. Every character is exactly one instruction; those without a meaning of their
own do nothing, as a space does.
-/
set_option autoImplicit false

namespace Befunge

-- An instruction. In the comments `a` is the top of the stack and `b` the value below it.
inductive Instruction where
  | digit (d : Fin 10)
  -- Push `b + a`.
  | add
  -- Push `b - a`.
  | sub
  -- Push `b * a`.
  | mul
  -- Push `b / a`, truncated; zero if `a` is zero.
  | div
  -- Push the remainder of `b / a`; zero if `a` is zero.
  | mod
  -- Push 1 if `a` is zero, otherwise 0.
  | not
  -- Push 1 if `b > a`, otherwise 0.
  | greater
  | left
  | right
  | up
  | down
  | random
  -- Turn right if `a` is zero, otherwise left.
  | horizontalIf
  -- Turn down if `a` is zero, otherwise up.
  | verticalIf
  -- Jump over the next cell.
  | trampoline
  -- Enter or leave string mode.
  | stringMode
  -- Push `a` once more.
  | dup
  -- Exchange `a` and `b`.
  | swap
  | discard
  -- Write `a` in decimal.
  | printInt
  -- Write the character with code point `a`.
  | printChar
  -- Pop a row, a column and a value, and store the value's character there.
  | put
  -- Pop a row and a column, and push the code point of the cell there.
  | get
  | halt
  | nop
deriving DecidableEq, Repr, Inhabited

namespace Instruction

def ofChar : Char → Instruction
  | '0' => .digit 0
  | '1' => .digit 1
  | '2' => .digit 2
  | '3' => .digit 3
  | '4' => .digit 4
  | '5' => .digit 5
  | '6' => .digit 6
  | '7' => .digit 7
  | '8' => .digit 8
  | '9' => .digit 9
  | '+' => .add
  | '-' => .sub
  | '*' => .mul
  | '/' => .div
  | '%' => .mod
  | '!' => .not
  | '\x60' => .greater
  | '<' => .left
  | '>' => .right
  | '^' => .up
  | 'v' => .down
  | '?' => .random
  | '"' => .stringMode
  | '_' => .horizontalIf
  | '|' => .verticalIf
  | ':' => .dup
  | '\\' => .swap
  | '$' => .discard
  | '.' => .printInt
  | ',' => .printChar
  | '#' => .trampoline
  | 'p' => .put
  | 'g' => .get
  | '@' => .halt
  | _ => .nop

-- The character that is usually written for the instruction.
def symbol : Instruction → Char
  | .digit d => Char.ofNat ('0'.toNat + d.val)
  | .add => '+'
  | .sub => '-'
  | .mul => '*'
  | .div => '/'
  | .mod => '%'
  | .not => '!'
  | .greater => '\x60'
  | .left => '<'
  | .right => '>'
  | .up => '^'
  | .down => 'v'
  | .random => '?'
  | .stringMode => '"'
  | .horizontalIf => '_'
  | .verticalIf => '|'
  | .dup => ':'
  | .swap => '\\'
  | .discard => '$'
  | .printInt => '.'
  | .printChar => ','
  | .trampoline => '#'
  | .put => 'p'
  | .get => 'g'
  | .halt => '@'
  | .nop => ' '

def name : Instruction → String
  | .digit _ => "push"
  | .add => "add"
  | .sub => "sub"
  | .mul => "mul"
  | .div => "div"
  | .mod => "mod"
  | .not => "not"
  | .greater => "greater"
  | .left => "left"
  | .right => "right"
  | .up => "up"
  | .down => "down"
  | .random => "random"
  | .stringMode => "string"
  | .horizontalIf => "if-horizontal"
  | .verticalIf => "if-vertical"
  | .dup => "dup"
  | .swap => "swap"
  | .discard => "discard"
  | .printInt => "print-int"
  | .printChar => "print-char"
  | .trampoline => "trampoline"
  | .put => "put"
  | .get => "get"
  | .halt => "halt"
  | .nop => "nop"

-- The instructions that can make the pointer go elsewhere than straight on.
def isFlow : Instruction → Bool
  | .left | .right | .up | .down | .random | .horizontalIf | .verticalIf | .trampoline | .halt => true
  | _ => false

theorem of_char_symbol (i : Instruction) : ofChar i.symbol = i := by
  cases i with
  | digit d => revert d; decide
  | _ => rfl

theorem of_char_eq_iff (c : Char) (i : Instruction) (known : i ≠ .nop) : ofChar c = i ↔ c = i.symbol := by
  constructor
  · rintro rfl
    revert known
    unfold ofChar
    split <;> first | exact fun _ => rfl | exact fun known => absurd rfl known
  · rintro rfl
    exact of_char_symbol i

end Instruction

end Befunge
