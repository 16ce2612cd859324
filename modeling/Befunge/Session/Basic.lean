import Befunge.Breakpoints
import Befunge.History
import Befunge.Trace.Tracer

/-!
A debugging session: a machine together with what observes and steers it. Every step taken through
a session is traced, and can be taken back as long as the history holds the machine before it.
-/
set_option autoImplicit false

namespace Befunge

structure Session where
  machine : Machine
  source : String
  name : Option String := none
  config : Config
  tracer : Tracer := .disabled
  breakpoints : Breakpoints := .empty
  history : History := .empty History.defaultCapacity
  -- The number of steps at which a run gives up.
  limit : Option UInt64 := none

namespace Session

def start (source : String) (config : Config) : Session :=
  { machine := Machine.load source config, source, config }

-- Puts another program in the place of the one that a reset starts. The machine goes on as it was.
def setProgram (source : String) (name : Option String) (s : Session) : Session :=
  { s with source, name }

def setLimit (limit : Option UInt64) (s : Session) : Session :=
  { s with limit }

-- Whether the breakpoint was not there before, and the session with it.
def addBreakpoint (p : Position) (s : Session) : Bool × Session :=
  (!s.breakpoints.contains p, { s with breakpoints := s.breakpoints.insert p })

-- Whether the breakpoint was there, and the session without it.
def removeBreakpoint (p : Position) (s : Session) : Bool × Session :=
  (s.breakpoints.contains p, { s with breakpoints := s.breakpoints.erase p })

def mapTracer (f : Tracer → Tracer) (s : Session) : Session :=
  { s with tracer := f s.tracer }

-- Starts the program again. The breakpoints stay; history and trace records are dropped.
def reset (s : Session) : Session :=
  { s with
    machine := Machine.load s.source s.config
    history := s.history.clear
    tracer := s.tracer.clear }

def restore (m : Machine) (s : Session) : Session :=
  { s with machine := m, history := s.history.clear }

-- Takes up to `count` steps back, and tells how many there were to take back.
def back (count : Nat) (s : Session) : Nat × Session :=
  let (target, history) := s.history.rewind count
  (s.history.size - history.size, { s with machine := target.getD s.machine, history })

end Session

end Befunge
