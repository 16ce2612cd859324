import Befunge.Direction
import Befunge.Instruction
import Befunge.Error

/-!
What a trace records.
-/
set_option autoImplicit false

namespace Befunge.Trace

inductive Event where
  -- An instruction was executed. The direction and the stack's depth are those after it.
  | step (position : Position) (cell : Char) (instruction : Instruction) (direction : Direction)
      (depth : Nat)
  | stringPush (position : Position) (value : Value)
  | output (text : String)
  | cellWrite (position : Position) (cell : Char)
  -- The program halted after so many steps.
  | halt (steps : UInt64)
  | breakpointHit (position : Position)
  | fault (message : String)
deriving DecidableEq, Repr

namespace Event

def kind : Event → String
  | .step .. => "step"
  | .stringPush .. => "string-push"
  | .output .. => "output"
  | .cellWrite .. => "cell-write"
  | .halt .. => "halt"
  | .breakpointHit .. => "breakpoint-hit"
  | .fault .. => "fault"

def isEffect : Event → Bool
  | .output _ | .cellWrite .. => true
  | _ => false

end Event

structure Record where
  -- The number of records made before this one.
  id : Nat
  -- The number of the step it belongs to.
  step : UInt64
  -- Nanoseconds since the trace began.
  time : UInt64
  event : Event
deriving DecidableEq, Repr

namespace Record

def kind (r : Record) : String :=
  r.event.kind

end Record

end Befunge.Trace
