import Befunge.Session.Basic

/-!
Stepping and running a session.

A run ends when the program halts, when a step fails or when the step limit is reached, and a run
that heeds breakpoints ends at those too. Otherwise it need not end, so it is given an amount of
fuel, one unit for each step; without fuel it has no result yet, and the session it comes back with
can be run on.
-/
set_option autoImplicit false

namespace Befunge.Session

-- One step: its report, or nothing if the program has halted before. The machine before the step
-- goes into the history even if the step fails, so that going back returns the operands it popped.
def step (s : Session) : Except Error (Option Report) × Session :=
  if s.machine.halted then (.ok none, s) else
    let history := s.history.push s.machine
    match s.machine.step s.config.bounds with
    | .halted machine => (.ok none, { s with machine, history })
    | .stepped report machine =>
        let tracer :=
          if s.tracer.enabled then s.tracer.observe report machine.stack.size else s.tracer
        (.ok (some report), { s with machine, history, tracer })
    | .faulted error machine =>
        (.error (error.labelled s.name),
          { s with machine, history, tracer := s.tracer.fault error.message })

-- Up to `count` steps, ending early when the program halts or a step fails. The result is the
-- report of the last step, or `last` if none was taken.
def stepsAfter (last : Option Report) : Nat → Session → Except Error (Option Report) × Session
  | 0, s => (.ok last, s)
  | count + 1, s =>
      match s.step with
      | (.ok none, s) => (.ok last, s)
      | (.ok (some report), s) => stepsAfter (some report) count s
      | (.error error, s) => (.error error, s)

-- Up to `count` steps, without regard to breakpoints and limit.
def steps (count : Nat) (s : Session) : Except Error (Option Report) × Session :=
  stepsAfter none count s

-- The error of a run that has used up its steps.
def overLimit? (s : Session) : Option Error :=
  match s.limit with
  | some limit =>
      if limit ≤ s.machine.steps then
        some <| Error.labelled s.name
          { cause := .stepLimit limit
            context := some
              { position := some s.machine.pointer.position, steps := some s.machine.steps } }
      else none
  | none => none

-- Runs to the end of the program, past breakpoints.
def run : Nat → Session → Option (Except Error Unit) × Session
  | 0, s => (none, s)
  | fuel + 1, s =>
      if s.machine.halted then (some (.ok ()), s)
      else match s.overLimit? with
        | some error => (some (.error error), s)
        | none =>
            match s.step with
            | (.ok _, s) => run fuel s
            | (.error error, s) => (some (.error error), s)

inductive Stop where
  | halted
  -- The pointer has come to a breakpoint; its cell has not been executed yet.
  | breakpoint (position : Position)
deriving DecidableEq, Repr

-- Runs to the next breakpoint or to the end of the program. A breakpoint under the pointer counts
-- only when `moved` says that a step was taken.
def proceedFrom (moved : Bool) : Nat → Session → Option (Except Error Stop) × Session
  | 0, s => (none, s)
  | fuel + 1, s =>
      let position := s.machine.pointer.position
      if s.machine.halted then (some (.ok .halted), s)
      else if moved && s.breakpoints.contains position then
        (some (.ok (.breakpoint position)), s.mapTracer (·.breakpointHit position))
      else match s.overLimit? with
        | some error => (some (.error error), s)
        | none =>
            match s.step with
            | (.ok _, s) => proceedFrom true fuel s
            | (.error error, s) => (some (.error error), s)

-- Runs to the next breakpoint or to the end of the program. At least one step is taken, so a run
-- from a breakpoint leaves it behind.
def proceed (fuel : Nat) (s : Session) : Option (Except Error Stop) × Session :=
  proceedFrom false fuel s

end Befunge.Session
