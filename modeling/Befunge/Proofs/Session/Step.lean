import Befunge.Proofs.Machine.Step
import Befunge.Session.Run

/-!
What a step does to a session, and what every operation made of steps keeps. The machine goes on as
`Machine.attempt` says, the history records the machine before the step, and of the rest only the
tracer can change.
-/
set_option autoImplicit false

namespace Befunge

namespace Session

theorem step_of_halted (s : Session) (halted : s.machine.halted = true) : s.step = (.ok none, s) := by
  simp [step, halted]

-- Only the tracer is left open: what it records depends on the outcome of the step.
theorem step_of_running (s : Session) (running : s.machine.halted = false) :
    s.step.2 = { s with
      machine := s.machine.attempt s.config.bounds
      history := s.history.push s.machine
      tracer := s.step.2.tracer } := by
  have notHalted : ¬ s.machine.halted = true := by simp [running]
  unfold step
  rw [if_neg notHalted]
  cases outcome : s.machine.step s.config.bounds with
  | halted after => simp only [Machine.attempt, outcome]
  | stepped report after => simp only [Machine.attempt, outcome]
  | faulted error after => simp only [Machine.attempt, outcome]

@[simp] theorem machine_step (s : Session) :
    s.step.2.machine = s.machine.attempt s.config.bounds := by
  cases running : s.machine.halted with
  | false => rw [step_of_running s running]
  | true => rw [step_of_halted s running, Machine.attempt_of_halted _ _ running]

theorem history_step (s : Session) (running : s.machine.halted = false) :
    s.step.2.history = s.history.push s.machine := by
  rw [step_of_running s running]

-- The answer to a step, from what the machine made of it.
def answer (name : Option String) : Machine.Outcome → Except Error (Option Report)
  | .halted _ => .ok none
  | .stepped report _ => .ok (some report)
  | .faulted error _ => .error (error.labelled name)

theorem step_answer (s : Session) : s.step.1 = answer s.name (s.machine.step s.config.bounds) := by
  cases running : s.machine.halted with
  | true =>
      rw [step_of_halted s running]
      simp [Machine.step, running, answer]
  | false =>
      have notHalted : ¬ s.machine.halted = true := by simp [running]
      unfold step
      rw [if_neg notHalted]
      cases outcome : s.machine.step s.config.bounds with
      | halted after => rfl
      | stepped report after => rfl
      | faulted error after => rfl

theorem halted_of_step_none (s : Session) (none : s.step.1 = .ok none) : s.machine.halted = true := by
  rw [step_answer] at none
  cases outcome : s.machine.step s.config.bounds with
  | halted after => exact Machine.halted_of_step _ _ after outcome
  | stepped report after => rw [outcome] at none; cases none
  | faulted error after => rw [outcome] at none; cases none

theorem stepped_of_answer (s : Session) (report : Report) (advanced : s.step.1 = .ok (some report)) :
    ∃ next, s.machine.step s.config.bounds = .stepped report next := by
  rw [step_answer] at advanced
  cases outcome : s.machine.step s.config.bounds with
  | halted after => rw [outcome] at advanced; cases advanced
  | stepped told after => rw [outcome] at advanced; cases advanced; exact ⟨after, rfl⟩
  | faulted error after => rw [outcome] at advanced; cases advanced

-- What a session is set to: no step and no going back changes any of it.
structure Settings where
  source : String
  name : Option String
  config : Config
  breakpoints : Breakpoints
  limit : Option UInt64
deriving DecidableEq, Repr

def settings (s : Session) : Settings :=
  { source := s.source, name := s.name, config := s.config, breakpoints := s.breakpoints, limit := s.limit }

@[simp] theorem settings_step (s : Session) : s.step.2.settings = s.settings := by
  cases running : s.machine.halted with
  | false =>
      rw [step_of_running s running]
      rfl
  | true => rw [step_of_halted s running]

theorem name_step (s : Session) : s.step.2.name = s.name :=
  congrArg Settings.name (settings_step s)

@[simp] theorem config_step (s : Session) : s.step.2.config = s.config :=
  congrArg Settings.config (settings_step s)

@[simp] theorem breakpoints_step (s : Session) : s.step.2.breakpoints = s.breakpoints :=
  congrArg Settings.breakpoints (settings_step s)

section Kept

-- A property that every single step keeps is kept by all that is made of steps. A run that heeds
-- breakpoints besides tells the tracer where it pauses.
variable {P : Session → Prop} (stepped : ∀ s, P s → P s.step.2)

include stepped

theorem steps_after_keeps (last : Option Report) (count : Nat) (s : Session) (holds : P s) :
    P (stepsAfter last count s).2 := by
  induction count generalizing last s with
  | zero => exact holds
  | succ count ih =>
      have after := stepped s holds
      rw [stepsAfter]
      split
      · rename_i next stepEq
        rwa [stepEq] at after
      · rename_i report next stepEq
        rw [stepEq] at after
        exact ih (some report) next after
      · rename_i error next stepEq
        rwa [stepEq] at after

theorem steps_keeps (count : Nat) (s : Session) (holds : P s) : P (s.steps count).2 :=
  steps_after_keeps stepped none count s holds

theorem run_keeps (fuel : Nat) (s : Session) (holds : P s) : P (s.run fuel).2 := by
  induction fuel generalizing s with
  | zero => exact holds
  | succ fuel ih =>
      have after := stepped s holds
      rw [run]
      split
      · exact holds
      · split
        · exact holds
        · split
          · rename_i result next stepEq
            rw [stepEq] at after
            exact ih next after
          · rename_i error next stepEq
            rwa [stepEq] at after

-- Where a run pauses it has just taken a step, and `Q` may say what a step brings about.
theorem proceed_from_keeps_arrived {Q : Session → Prop}
    (arrived : ∀ s report, P s → s.step.1 = .ok (some report) → Q s.step.2)
    (paused : ∀ s p, P s → Q s → P (s.mapTracer (·.breakpointHit p))) (moved : Bool) (fuel : Nat)
    (s : Session) (holds : P s) (come : moved = true → Q s) : P (proceedFrom moved fuel s).2 := by
  induction fuel generalizing moved s with
  | zero => exact holds
  | succ fuel ih =>
      have after := stepped s holds
      have arrival := arrived s
      rw [proceedFrom]
      split
      · exact holds
      · rename_i running
        split
        · rename_i pausing
          exact paused s _ holds (come (Bool.and_eq_true_iff.1 pausing).1)
        · split
          · exact holds
          · split
            · rename_i result next stepEq
              rw [stepEq] at after arrival
              refine ih true next after fun _ => ?_
              cases result with
              | none => exact absurd (halted_of_step_none s (by rw [stepEq])) running
              | some report => exact arrival report holds rfl
            · rename_i error next stepEq
              rwa [stepEq] at after

theorem proceed_from_keeps (paused : ∀ s p, P s → P (s.mapTracer (·.breakpointHit p)))
    (moved : Bool) (fuel : Nat) (s : Session) (holds : P s) : P (proceedFrom moved fuel s).2 :=
  proceed_from_keeps_arrived stepped (fun s _ held _ => stepped s held) (fun s p held _ => paused s p held)
    moved fuel s holds fun _ => holds

theorem proceed_keeps (paused : ∀ s p, P s → P (s.mapTracer (·.breakpointHit p))) (fuel : Nat)
    (s : Session) (holds : P s) : P (s.proceed fuel).2 :=
  proceed_from_keeps stepped paused false fuel s holds

end Kept

end Session

end Befunge
