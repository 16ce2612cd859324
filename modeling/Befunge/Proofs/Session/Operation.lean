import Befunge.Image.Basic
import Befunge.Proofs.Session.Step

/-!
Everything that can be done with a session, as data, so that what holds after any sequence of
operations can be stated and proved once.
-/
set_option autoImplicit false

namespace Befunge

namespace Session

-- The operations that take a session along its program. A run is given fuel: one that ends has the
-- same result with any larger amount, and one that does not end is cut off at a session that single
-- steps reach as well.
inductive Move where
  | step
  | steps (count : Nat)
  | run (fuel : Nat)
  | proceed (fuel : Nat)
  | back (count : Nat)
deriving DecidableEq, Repr

inductive Answer where
  | stepped (result : Except Error (Option Report))
  | ran (result : Option (Except Error Unit))
  | stopped (result : Option (Except Error Stop))
  | undone (count : Nat)
  | changed (isNew : Bool)
  | done

def move (s : Session) : Move → Answer × Session
  | .step => (.stepped s.step.1, s.step.2)
  | .steps count => (.stepped (s.steps count).1, (s.steps count).2)
  | .run fuel => (.ran (s.run fuel).1, (s.run fuel).2)
  | .proceed fuel => (.stopped (s.proceed fuel).1, (s.proceed fuel).2)
  | .back count => (.undone (s.back count).1, (s.back count).2)

-- The answers to a sequence of moves, each with the machine that the move left behind.
def moves : List Move → Session → List (Answer × Machine) × Session
  | [], s => ([], s)
  | m :: rest, s =>
      let after := (s.move m).2
      (((s.move m).1, after.machine) :: (moves rest after).1, (moves rest after).2)

inductive Operation where
  | move (m : Move)
  | reset
  -- A session without a fixed seed starts again from another one: this comes before its reset.
  | reseed (seed : UInt64)
  | restore (machine : Machine)
  | apply (image : Image)
  | setProgram (source : String) (name : Option String)
  | addBreakpoint (position : Position)
  | removeBreakpoint (position : Position)
  | clearBreakpoints
  | setLimit (limit : Option UInt64)
  | mapTracer (f : Tracer → Tracer)

def perform (s : Session) : Operation → Answer × Session
  | .move m => s.move m
  | .reset => (.done, s.reset)
  | .reseed seed => (.done, { s with config := { s.config with seed } })
  | .restore machine => (.done, s.restore machine)
  | .apply image => (.done, image.apply s)
  | .setProgram source name => (.done, s.setProgram source name)
  | .addBreakpoint p => (.changed (s.addBreakpoint p).1, (s.addBreakpoint p).2)
  | .removeBreakpoint p => (.changed (s.removeBreakpoint p).1, (s.removeBreakpoint p).2)
  | .clearBreakpoints => (.done, { s with breakpoints := .empty })
  | .setLimit limit => (.done, s.setLimit limit)
  | .mapTracer f => (.done, s.mapTracer f)

-- A session as it is made: at the start of its program, with a history of any capacity and nothing
-- in it.
def construct (source : String) (config : Config) (name : Option String) (tracer : Tracer)
    (capacity : Nat) (limit : Option UInt64) : Session :=
  { start source config with name, tracer, history := .empty capacity, limit }

inductive Reachable : Session → Prop where
  | construct (source : String) (config : Config) (name : Option String) (tracer : Tracer)
      (capacity : Nat) (limit : Option UInt64) :
      Reachable (construct source config name tracer capacity limit)
  | perform (s : Session) (operation : Operation) (reached : Reachable s) :
      Reachable (s.perform operation).2

theorem move_keeps {P : Session → Prop} (stepped : ∀ s, P s → P s.step.2)
    (paused : ∀ s p, P s → P (s.mapTracer (·.breakpointHit p)))
    (undone : ∀ s count, P s → P (s.back count).2) (s : Session) (m : Move) (holds : P s) :
    P (s.move m).2 := by
  cases m with
  | step => exact stepped s holds
  | steps count => exact steps_keeps stepped count s holds
  | run fuel => exact run_keeps stepped fuel s holds
  | proceed fuel => exact proceed_keeps stepped paused fuel s holds
  | back count => exact undone s count holds

end Session

end Befunge
