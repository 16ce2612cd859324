import Befunge.Breakpoints
import Befunge.Grid
import Befunge.Screen.Paint
import Befunge.Text.Blank
import Befunge.Text.Number

/-!
The playfield on a screen, with the pointer and the breakpoints marked.
-/
set_option autoImplicit false

namespace Befunge.Screen

inductive Style where
  -- By brackets; breakpoints are not marked at all.
  | brackets
  -- By colours, and breakpoints too.
  | colours
deriving DecidableEq, Repr, Inhabited

-- A cell on the screen. Control characters show as a dot.
def cell (style : Style) (c : Char) (isPointer isBreakpoint : Bool) : String :=
  let shown := String.singleton (if Text.isControl c then '.' else c)
  match style, isPointer, isBreakpoint with
  | .brackets, false, _ => shown
  | .brackets, true, _ => "[" ++ shown ++ "]"
  | .colours, false, false => shown
  | .colours, true, false => paint inverse shown
  | .colours, false, true => paint boldRed shown
  | .colours, true, true => boldRed ++ paint inverse shown

-- The number of places drawn in a row: its cells, and those up to the pointer if it is in it.
def drawnLength (g : Grid) (pointer : Position) (y : Nat) : Nat :=
  max (g.rowLength y) (if pointer.y = y then pointer.x + 1 else 0)

-- The line over the rows: the last digit of each column's number.
def ruler (style : Style) (width : Nat) : String :=
  let line :=
    "    " ++ String.ofList ((List.range width).map fun x => Char.ofNat ('0'.toNat + x % 10))
  match style with
  | .brackets => line
  | .colours => paint dim line

def row (style : Style) (g : Grid) (pointer : Position) (breakpoints : Breakpoints) (y : Nat) :
    String :=
  Text.padLeft 3 ' ' (toString y) ++ " " ++
    String.join ((List.range (drawnLength g pointer y)).map fun x =>
      cell style ((g.get? x y).getD ' ') (⟨x, y⟩ = pointer) (breakpoints.contains ⟨x, y⟩))

-- The ruler and the rows, each with a line feed behind it. Rows are drawn down to the pointer, if
-- it is below the last one.
def render (style : Style) (g : Grid) (pointer : Position) (breakpoints : Breakpoints) : String :=
  String.join <|
    (ruler style (max g.width (pointer.x + 1)) ++ "\n") ::
    (List.range (max g.rowCount (pointer.y + 1))).map fun y =>
      row style g pointer breakpoints y ++ "\n"

end Befunge.Screen
