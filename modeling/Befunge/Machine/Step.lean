import Befunge.Instruction
import Befunge.Machine.Arithmetic
import Befunge.Machine.Basic

/-!
One step of a machine: fetch the cell under the pointer, push or execute it, move on. Every machine
has an outcome. Only under strict bounds can it be a fault, and a fault leaves everything but the
popped operands as it was.
-/
set_option autoImplicit false

namespace Befunge

-- What a step did with its cell.
inductive Action where
  | push (value : Value)
  | execute (instruction : Instruction)
deriving DecidableEq, Repr

-- What an instruction did to the world outside the stack and the pointer.
structure Effects where
  emitted : Option String := none
  -- A cell that was overwritten, with its new character.
  stored : Option (Position × Char) := none
deriving DecidableEq, Repr, Inhabited

structure Report where
  -- The number of the step; the first one is number 1.
  number : UInt64
  position : Position
  cell : Char
  action : Action
  -- The direction of travel after the step.
  direction : Direction
  -- The pointer's place after the step.
  next : Position
  effects : Effects
deriving DecidableEq, Repr

namespace Machine

inductive Executed where
  | done (machine : Machine) (effects : Effects)
  | outOfBounds (x y : Value) (machine : Machine)
deriving DecidableEq, Repr

def combine (f : Value → Value → Value) (m : Machine) : Machine :=
  let (a, m) := m.pop
  let (b, m) := m.pop
  m.push (f b a)

-- Turns one way for a zero on top and the other way for everything else.
def branch (zero other : Direction) (m : Machine) : Machine :=
  let (a, m) := m.pop
  m.turn (if a = 0 then zero else other)

def emit (text : String) (m : Machine) : Executed :=
  .done (m.write text) { emitted := some text }

def fetchCell (bounds : Bounds) (m : Machine) : Executed :=
  let (y, m) := m.pop
  let (x, m) := m.pop
  match m.grid.locate x y, bounds with
  | some p, _ => .done (m.push (Cell.value (m.grid.fetch p))) {}
  | none, .lenient => .done (m.push 0) {}
  | none, .strict => .outOfBounds x y m

def storeCell (bounds : Bounds) (m : Machine) : Executed :=
  let (y, m) := m.pop
  let (x, m) := m.pop
  let (v, m) := m.pop
  match m.grid.locate x y, bounds with
  | some p, _ =>
      let c := Cell.ofValue v
      .done { m with grid := m.grid.set p.x p.y c } { stored := some (p, c) }
  | none, .lenient => .done m {}
  | none, .strict => .outOfBounds x y m

-- Executes an instruction. The move to the next cell is not part of it.
def execute (bounds : Bounds) (m : Machine) : Instruction → Executed
  | .digit d => .done (m.push (Int64.ofNat d.val)) {}
  | .add => .done (m.combine (· + ·)) {}
  | .sub => .done (m.combine (· - ·)) {}
  | .mul => .done (m.combine (· * ·)) {}
  | .div => .done (m.combine Arithmetic.quotient) {}
  | .mod => .done (m.combine Arithmetic.remainder) {}
  | .not =>
      let (a, m) := m.pop
      .done (m.push (Arithmetic.truth (a = 0))) {}
  | .greater => .done (m.combine fun b a => Arithmetic.truth (a < b)) {}
  | .left => .done (m.turn .left) {}
  | .right => .done (m.turn .right) {}
  | .up => .done (m.turn .up) {}
  | .down => .done (m.turn .down) {}
  | .random =>
      let (d, generator) := m.generator.direction
      .done { m.turn d with generator } {}
  | .horizontalIf => .done (m.branch .right .left) {}
  | .verticalIf => .done (m.branch .down .up) {}
  | .trampoline => .done m.advance {}
  | .stringMode => .done { m with stringMode := !m.stringMode } {}
  | .dup => .done (m.push (m.stack.peek?.getD 0)) {}
  | .swap =>
      let (a, m) := m.pop
      let (b, m) := m.pop
      .done ((m.push a).push b) {}
  | .discard => .done m.pop.2 {}
  | .printInt =>
      let (a, m) := m.pop
      m.emit (toString a.toInt)
  | .printChar =>
      let (a, m) := m.pop
      m.emit (String.singleton (Cell.ofValue a))
  | .put => m.storeCell bounds
  | .get => m.fetchCell bounds
  | .halt => .done { m with halted := true } {}
  | .nop => .done m {}

inductive Outcome where
  | halted (machine : Machine)
  | stepped (report : Report) (machine : Machine)
  | faulted (error : Error) (machine : Machine)
deriving DecidableEq, Repr

-- Counts the step and moves on, unless the program has halted.
def finish (m : Machine) : Machine :=
  let m := { m with steps := m.steps + 1 }
  if m.halted then m else m.advance

-- The outcome of a step on the cell at this place, from the machine that pushing or executing it
-- led to.
def completed (position : Position) (cell : Char) (action : Action) (effects : Effects)
    (after : Machine) : Outcome :=
  let after := after.finish
  .stepped
    { number := after.steps
      position
      cell
      action
      direction := after.pointer.direction
      next := after.pointer.position
      effects }
    after

def step (bounds : Bounds) (m : Machine) : Outcome :=
  if m.halted then .halted m else
    let position := m.pointer.position
    let cell := m.cell
    let steps := m.steps
    if m.stringMode ∧ cell ≠ '"' then
      completed position cell (.push (Cell.value cell)) {} (m.push (Cell.value cell))
    else
      let instruction := Instruction.ofChar cell
      match m.execute bounds instruction with
      | .done after effects => completed position cell (.execute instruction) effects after
      | .outOfBounds x y after =>
          .faulted
            { cause := .outOfBounds x y
              context := some { position := some position, steps := some steps } }
            after

-- The machine that a step leaves behind, whatever its outcome.
def attempt (bounds : Bounds) (m : Machine) : Machine :=
  match m.step bounds with
  | .halted after | .stepped _ after | .faulted _ after => after

inductive RunEnd where
  | halted
  | paused
  | faulted (error : Error)
deriving DecidableEq, Repr

-- At most `count` steps, ending early when the program halts or a step fails.
def run (bounds : Bounds) : Nat → Machine → RunEnd × Machine
  | 0, m => (.paused, m)
  | count + 1, m =>
      match m.step bounds with
      | .halted after => (.halted, after)
      | .stepped _ after => run bounds count after
      | .faulted error after => (.faulted error, after)

end Machine

end Befunge
