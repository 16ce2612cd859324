import Befunge.Direction
import Befunge.Grid

/-!
The instruction pointer. It wraps around at the edges: sideways within the length of its row, up
and down within the number of rows. Rows are not padded, so a move to a shorter row may end in the
void behind it.
-/
set_option autoImplicit false

namespace Befunge

structure Pointer where
  position : Position := .origin
  direction : Direction := .right
deriving DecidableEq, Repr, Inhabited

namespace Pointer

-- One up, and back to zero from the last of `length` places or from behind it.
def wrapUp (length n : Nat) : Nat :=
  if n + 1 < length then n + 1 else 0

-- One down, and from zero to the last of `length` places.
def wrapDown (length n : Nat) : Nat :=
  if n = 0 then length - 1 else n - 1

def next (g : Grid) (p : Pointer) : Position :=
  match p.direction with
  | .right => { p.position with x := wrapUp (g.rowLength p.position.y) p.position.x }
  | .left => { p.position with x := wrapDown (g.rowLength p.position.y) p.position.x }
  | .down => { p.position with y := wrapUp g.rowCount p.position.y }
  | .up => { p.position with y := wrapDown g.rowCount p.position.y }

def advance (g : Grid) (p : Pointer) : Pointer :=
  { p with position := p.next g }

def turn (d : Direction) (p : Pointer) : Pointer :=
  { p with direction := d }

end Pointer

end Befunge
