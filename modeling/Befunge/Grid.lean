import Befunge.Cell
import Befunge.Position

/-!
The playfield: rows of cells, each row with a length of its own. Past the end of its row a place is
void: it reads as a space, and a program can neither address nor change it.
-/
set_option autoImplicit false

namespace Befunge

structure Grid where
  rows : Array (Array Char)
deriving DecidableEq, Repr, Inhabited

namespace Grid

def dropEmptyTail (lines : List (List Char)) : List (List Char) :=
  (lines.reverse.dropWhile List.isEmpty).reverse

-- One row for each line of the text. Only a line feed ends a line, and empty lines at the end of
-- the text are no rows.
def parse (text : String) : Grid :=
  ⟨((dropEmptyTail (text.toList.splitOn '\n')).map List.toArray).toArray⟩

def rowCount (g : Grid) : Nat :=
  g.rows.size

def rowLength (g : Grid) (y : Nat) : Nat :=
  (g.rows[y]?.map Array.size).getD 0

def width (g : Grid) : Nat :=
  g.rows.foldl (fun n row => max n row.size) 0

def isEmpty (g : Grid) : Bool :=
  g.rows.isEmpty

def get? (g : Grid) (x y : Nat) : Option Char :=
  g.rows[y]?.bind (·[x]?)

def contains (g : Grid) (x y : Nat) : Bool :=
  x < g.rowLength y

def set (g : Grid) (x y : Nat) (c : Char) : Grid :=
  ⟨g.rows.modify y (·.setIfInBounds x c)⟩

-- What the pointer finds at a place: the void is a space.
def fetch (g : Grid) (p : Position) : Char :=
  (g.get? p.x p.y).getD ' '

def locate (g : Grid) (x y : Value) : Option Position :=
  if 0 ≤ x.toInt ∧ 0 ≤ y.toInt ∧ g.contains x.toInt.toNat y.toInt.toNat then
    some ⟨x.toInt.toNat, y.toInt.toNat⟩
  else none

def lines (g : Grid) : List String :=
  g.rows.toList.map fun row => String.ofList row.toList

def render (g : Grid) : String :=
  "\n".intercalate g.lines

end Grid

end Befunge
