import Befunge.Error
import Befunge.Pointer
import Befunge.Random.Generator
import Befunge.Stack

/-!
The state of a running program. It is complete: two machines that are equal go on alike, random
choices included, so a copy of the state is all that undoing and saving need.
-/
set_option autoImplicit false

namespace Befunge

-- What `g` and `p` do at a place that is no cell.
inductive Bounds where
  -- `g` pushes zero and `p` does nothing.
  | lenient
  | strict
deriving DecidableEq, Repr, Inhabited

structure Config where
  seed : UInt64 := 0
  bounds : Bounds := .lenient
deriving DecidableEq, Repr, Inhabited

structure Machine where
  grid : Grid
  pointer : Pointer := {}
  stack : Stack := .empty
  -- Whether cells are pushed instead of executed.
  stringMode : Bool := false
  halted : Bool := false
  output : String := ""
  steps : UInt64 := 0
  generator : Generator
deriving DecidableEq, Repr

namespace Machine

def load (source : String) (config : Config) : Machine :=
  { grid := Grid.parse source, generator := Generator.ofSeed config.seed }

def push (v : Value) (m : Machine) : Machine :=
  { m with stack := m.stack.push v }

def pop (m : Machine) : Value × Machine :=
  let (v, stack) := m.stack.pop
  (v, { m with stack })

def turn (d : Direction) (m : Machine) : Machine :=
  { m with pointer := m.pointer.turn d }

def advance (m : Machine) : Machine :=
  { m with pointer := m.pointer.advance m.grid }

def write (text : String) (m : Machine) : Machine :=
  { m with output := m.output ++ text }

def cell (m : Machine) : Char :=
  m.grid.fetch m.pointer.position

def outputSince (mark : String.Pos.Raw) (m : Machine) : String :=
  if valid : mark.IsValid m.output then (m.output.sliceFrom (m.output.pos mark valid)).copy else ""

def takeOutput (m : Machine) : String × Machine :=
  (m.output, { m with output := "" })

-- What is written is what there is since the end that the output had before.
theorem output_since_write (text : String) (m : Machine) :
    (m.write text).outputSince m.output.rawEndPos = text := by
  have valid : m.output.rawEndPos.IsValid (m.output ++ text) :=
    String.Pos.Raw.isValid_iff_exists_append.2 ⟨m.output, text, rfl, rfl⟩
  have cut : ((m.output ++ text).pos m.output.rawEndPos valid).Splits m.output text := ⟨rfl, rfl⟩
  rw [outputSince, write, dif_pos valid, cut.copy_sliceFrom_eq]

end Machine

end Befunge
