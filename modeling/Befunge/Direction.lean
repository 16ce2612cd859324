/-!
The four directions of travel.
-/
set_option autoImplicit false

namespace Befunge

inductive Direction where
  | up
  | left
  | down
  | right
deriving DecidableEq, Repr, Inhabited

namespace Direction

-- Every direction, in the order in which a random draw numbers them.
def all : List Direction := [.up, .left, .down, .right]

def index : Direction → Fin 4
  | .up => 0
  | .left => 1
  | .down => 2
  | .right => 3

def ofIndex : Fin 4 → Direction
  | 0 => .up
  | 1 => .left
  | 2 => .down
  | 3 => .right

def arrow : Direction → Char
  | .up => '^'
  | .left => '<'
  | .down => 'v'
  | .right => '>'

def ofArrow? : Char → Option Direction
  | '^' => some .up
  | '<' => some .left
  | 'v' => some .down
  | '>' => some .right
  | _ => none

def isHorizontal : Direction → Bool
  | .left | .right => true
  | .up | .down => false

def name : Direction → String
  | .up => "up"
  | .left => "left"
  | .down => "down"
  | .right => "right"

theorem of_index_index (d : Direction) : ofIndex d.index = d := by
  cases d <;> rfl

theorem of_arrow_arrow (d : Direction) : ofArrow? d.arrow = some d := by
  cases d <;> rfl

end Direction

end Befunge
