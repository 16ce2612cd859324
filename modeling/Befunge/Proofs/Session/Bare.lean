import Befunge.Proofs.Machine.Journal
import Befunge.Proofs.Session.Course
import Befunge.Proofs.Session.Failure

/-!
A run of a session is a run of its machine alone: it takes the same steps and ends at the same place, as
long as the number of steps is what the limit leaves or, without a limit, enough for the program to end.
-/
set_option autoImplicit false

namespace Befunge

namespace Machine

theorem running_of_fault (bounds : Bounds) (m next : Machine) (error : Error)
    (faulted : m.step bounds = .faulted error next) : next.halted = false := by
  have running := running_of_faulted bounds m next error faulted
  obtain ⟨_, rfl⟩ := step_eq_faulted bounds m next error faulted
  rwa [without_top_eq]

end Machine

namespace Session

-- A run is over after so many steps: these are what the limit leaves, or, without one, the program ends
-- by itself within them.
def EndsWithin (n : Nat) (s : Session) : Prop :=
  match s.limit with
  | some limit => s.machine.steps.toNat + n = limit.toNat
  | none => (Machine.run s.config.bounds n s.machine).1 ≠ .paused

theorem within_of_ends (n : Nat) (s : Session) (ends : s.EndsWithin (n + 1)) : s.overLimit? = none := by
  rw [EndsWithin] at ends
  cases limited : s.limit with
  | none => exact over_limit_of_unlimited s limited
  | some limit =>
      rw [limited] at ends
      dsimp only at ends
      rw [over_limit_of_limited limit s limited, if_neg (by omega)]

theorem ends_within_step (n : Nat) (s : Session) (next : Machine) (report : Report)
    (stepped : s.machine.step s.config.bounds = .stepped report next) (ends : s.EndsWithin (n + 1)) :
    s.step.2.EndsWithin n := by
  have machine : s.step.2.machine = next := by rw [machine_step, Machine.attempt, stepped]
  have kept : s.step.2.limit = s.limit := congrArg Settings.limit (settings_step s)
  rw [EndsWithin] at ends ⊢
  rw [kept, machine, config_step]
  cases limited : s.limit with
  | none =>
      rw [limited] at ends
      dsimp only at ends ⊢
      rwa [Machine.run_of_stepped _ n _ next report stepped] at ends
  | some limit =>
      rw [limited] at ends
      dsimp only at ends ⊢
      have bound := limit.toNat_lt
      have told := Machine.told_of_stepped _ _ next report stepped
      rw [told.steps, UInt64.toNat_add, UInt64.toNat_one, Nat.mod_eq_of_lt (by omega)]
      omega

-- How a run goes that is given more fuel than there are steps to go.
structure Runs (n : Nat) (s ended : Session) (result : Except Error Unit) : Prop where
  run : ∀ fuel, n < fuel → s.run fuel = (some result, ended)
  machine : ended.machine = (Machine.run s.config.bounds n s.machine).2
  ok : result = .ok () ↔ ended.machine.halted = true

theorem runs_of_halted (n : Nat) (s : Session) (halted : s.machine.halted = true) :
    Runs n s s (.ok ()) where
  run := by
    intro fuel enough
    obtain ⟨rest, rfl⟩ := Nat.exists_eq_add_of_lt enough
    exact run_of_halted (n + rest) s halted
  machine := by
    cases n with
    | zero => rfl
    | succ n => rw [Machine.run_of_halted _ n _ halted]
  ok := iff_of_true rfl halted

theorem runs_of_exhausted (s : Session) (limit : UInt64) (limited : s.limit = some limit)
    (used : limit.toNat ≤ s.machine.steps.toNat) (running : s.machine.halted = false) :
    Runs 0 s s (.error (s.exhausted limit)) where
  run := by
    intro fuel enough
    obtain ⟨rest, rfl⟩ := Nat.exists_eq_add_of_lt enough
    exact run_of_over_limit (0 + rest) s running _ (by rw [over_limit_of_limited limit s limited, if_pos used])
  machine := rfl
  ok := by simp [running]

theorem runs_of_faulted (n : Nat) (s : Session) (ends : s.EndsWithin (n + 1)) (error : Error) (next : Machine)
    (faulted : s.machine.step s.config.bounds = .faulted error next) :
    Runs (n + 1) s s.step.2 (.error (error.labelled s.name)) where
  run := by
    intro fuel enough
    obtain ⟨rest, rfl⟩ := Nat.exists_eq_add_of_lt enough
    exact run_of_faulted (n + 1 + rest) s (within_of_ends n s ends) next error faulted
  machine := by rw [machine_step, Machine.attempt, Machine.run, faulted]
  ok := by
    rw [machine_step, Machine.attempt, faulted]
    simp [Machine.running_of_fault _ _ next error faulted]

theorem runs_of_stepped (n : Nat) (s ended : Session) (result : Except Error Unit) (ends : s.EndsWithin (n + 1))
    (report : Report) (next : Machine) (stepped : s.machine.step s.config.bounds = .stepped report next)
    (later : Runs n s.step.2 ended result) : Runs (n + 1) s ended result where
  run := by
    intro fuel enough
    obtain ⟨rest, rfl⟩ := Nat.exists_eq_add_of_lt enough
    rw [run_of_advances _ s (within_of_ends n s ends) ⟨report, next, stepped⟩]
    exact later.run _ (by omega)
  machine := by
    rw [later.machine, Machine.run_of_stepped _ n _ next report stepped, config_step, machine_step,
      Machine.attempt, stepped]
  ok := later.ok

theorem run_is_bare (n : Nat) (s : Session) (ends : s.EndsWithin n) :
    ∃ ended result, Runs n s ended result := by
  induction n generalizing s with
  | zero =>
      cases halted : s.machine.halted with
      | true => exact ⟨_, _, runs_of_halted 0 s halted⟩
      | false =>
          rw [EndsWithin] at ends
          cases limited : s.limit with
          | none =>
              rw [limited] at ends
              exact absurd rfl ends
          | some limit =>
              rw [limited] at ends
              exact ⟨_, _, runs_of_exhausted s limit limited (Nat.le_of_eq ends.symm) halted⟩
  | succ n ih =>
      cases outcome : s.machine.step s.config.bounds with
      | halted after => exact ⟨_, _, runs_of_halted (n + 1) s (Machine.halted_of_step _ _ after outcome)⟩
      | stepped report next =>
          obtain ⟨ended, result, later⟩ := ih s.step.2 (ends_within_step n s next report outcome ends)
          exact ⟨ended, result, runs_of_stepped n s ended result ends report next outcome later⟩
      | faulted error next => exact ⟨_, _, runs_of_faulted n s ends error next outcome⟩

end Session

end Befunge
