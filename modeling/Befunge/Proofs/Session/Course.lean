import Mathlib.Logic.Function.Iterate
import Mathlib.Data.Nat.Find
import Befunge.Proofs.Session.Step

/-!
The course of a session: the machines that successive steps lead through, and how far a run comes
along it. Fuel is spent one unit a step, so a run that has more fuel than there are steps to go gets
to the same place whatever the rest.
-/
set_option autoImplicit false

namespace Befunge

namespace Machine

-- The step from this machine succeeds: it has not halted, and what it addresses is there.
def Advances (bounds : Bounds) (m : Machine) : Prop :=
  ∃ report next, m.step bounds = .stepped report next

instance (bounds : Bounds) (m : Machine) : Decidable (m.Advances bounds) :=
  match outcome : m.step bounds with
  | .stepped report next => isTrue ⟨report, next, outcome⟩
  | .halted _ => isFalse (by rintro ⟨_, _, stepped⟩; rw [outcome] at stepped; cases stepped)
  | .faulted _ _ => isFalse (by rintro ⟨_, _, stepped⟩; rw [outcome] at stepped; cases stepped)

theorem running_of_advances (bounds : Bounds) (m : Machine) (advances : m.Advances bounds) :
    m.halted = false := by
  obtain ⟨report, next, stepped⟩ := advances
  cases halted : m.halted with
  | false => rfl
  | true => simp [step, halted] at stepped

theorem running_of_faulted (bounds : Bounds) (m next : Machine) (error : Error)
    (faulted : m.step bounds = .faulted error next) : m.halted = false := by
  cases halted : m.halted with
  | false => rfl
  | true => simp [step, halted] at faulted

end Machine

namespace Session

-- So many steps, whatever comes of each.
def stepAgain (count : Nat) (s : Session) : Session :=
  (fun t => t.step.2)^[count] s

-- The machine after so many steps, whatever came of each.
def machineAt (s : Session) (n : Nat) : Machine :=
  (Machine.attempt s.config.bounds)^[n] s.machine

def AdvancesFor (n : Nat) (s : Session) : Prop :=
  ∀ i < n, (s.machineAt i).Advances s.config.bounds

instance (n : Nat) (s : Session) : Decidable (s.AdvancesFor n) :=
  inferInstanceAs (Decidable (∀ i < n, (s.machineAt i).Advances s.config.bounds))

-- The limit lets the session take so many steps.
def WithinFor (n : Nat) (s : Session) : Prop :=
  ∀ i < n, (stepAgain i s).overLimit? = none

theorem step_again_succ (n : Nat) (s : Session) : stepAgain (n + 1) s = stepAgain n s.step.2 := rfl

theorem step_again_succ' (n : Nat) (s : Session) : stepAgain (n + 1) s = (stepAgain n s).step.2 :=
  Function.iterate_succ_apply' _ _ _

theorem step_again_add (m n : Nat) (s : Session) :
    stepAgain (m + n) s = stepAgain n (stepAgain m s) := by
  rw [Nat.add_comm, stepAgain, Function.iterate_add_apply]
  rfl

@[simp] theorem settings_step_again (n : Nat) (s : Session) : (stepAgain n s).settings = s.settings := by
  induction n generalizing s with
  | zero => rfl
  | succ n ih => rw [step_again_succ, ih, settings_step]

theorem name_step_again (n : Nat) (s : Session) : (stepAgain n s).name = s.name :=
  congrArg Settings.name (settings_step_again n s)

theorem config_step_again (n : Nat) (s : Session) : (stepAgain n s).config = s.config :=
  congrArg Settings.config (settings_step_again n s)

theorem breakpoints_step_again (n : Nat) (s : Session) :
    (stepAgain n s).breakpoints = s.breakpoints :=
  congrArg Settings.breakpoints (settings_step_again n s)

theorem limit_step_again (n : Nat) (s : Session) : (stepAgain n s).limit = s.limit :=
  congrArg Settings.limit (settings_step_again n s)

theorem machine_at_step (s : Session) (n : Nat) : s.step.2.machineAt n = s.machineAt (n + 1) := by
  rw [machineAt, machine_step, config_step]
  rfl

theorem machine_at_step_again (s : Session) (m n : Nat) :
    (stepAgain m s).machineAt n = s.machineAt (m + n) := by
  induction m generalizing s with
  | zero => rw [Nat.zero_add]; rfl
  | succ m ih => rw [step_again_succ, ih, machine_at_step, Nat.add_right_comm]

theorem machine_step_again (s : Session) (n : Nat) : (stepAgain n s).machine = s.machineAt n :=
  machine_at_step_again s n 0

-- A course ends at a halt or at a fault, or it does not end.
theorem course_ends (s : Session) (running : s.machine.halted = false) :
    (∃ n, s.AdvancesFor (n + 1) ∧ (s.machineAt (n + 1)).halted = true) ∨
      (∃ n error next, s.AdvancesFor n ∧
        (s.machineAt n).step s.config.bounds = .faulted error next) ∨
      ∀ n, s.AdvancesFor n := by
  by_cases stuck : ∃ n, ¬ (s.machineAt n).Advances s.config.bounds
  · have first : s.AdvancesFor (Nat.find stuck) := fun i before =>
      Decidable.not_not.1 (Nat.find_min stuck before)
    have atFirst := Nat.find_spec stuck
    generalize Nat.find stuck = n at first atFirst
    cases outcome : (s.machineAt n).step s.config.bounds with
    | halted after =>
        have halted := Machine.halted_of_step _ _ after outcome
        cases n with
        | zero =>
            rw [machineAt, Function.iterate_zero, id_eq, running] at halted
            cases halted
        | succ n => exact .inl ⟨n, first, halted⟩
    | stepped report next => exact absurd ⟨report, next, outcome⟩ atFirst
    | faulted error next => exact .inr (.inl ⟨n, error, next, first, outcome⟩)
  · refine .inr (.inr ?_)
    intro n i _
    exact Decidable.not_not.1 fun fails => stuck ⟨i, fails⟩

theorem machine_at_of_faulted (s : Session) (n : Nat) (next : Machine) (error : Error)
    (faulted : (s.machineAt n).step s.config.bounds = .faulted error next) :
    s.machineAt (n + 1) = next := by
  rw [machineAt, Function.iterate_succ_apply', ← machineAt, Machine.attempt, faulted]

theorem advances_for_step (n : Nat) (s : Session) (advances : s.AdvancesFor (n + 1)) :
    s.step.2.AdvancesFor n := by
  intro i inside
  rw [machine_at_step, config_step]
  exact advances (i + 1) (by omega)

theorem step_of_advances (s : Session) (advances : s.machine.Advances s.config.bounds) :
    ∃ report, s.step = (.ok (some report), s.step.2) := by
  obtain ⟨report, next, stepped⟩ := advances
  refine ⟨report, Prod.ext ?_ rfl⟩
  rw [step_answer, stepped]
  rfl

theorem step_of_faulted (s : Session) (next : Machine) (error : Error)
    (faulted : s.machine.step s.config.bounds = .faulted error next) :
    s.step = (.error (error.labelled s.name), s.step.2) := by
  refine Prod.ext ?_ rfl
  rw [step_answer, faulted]
  rfl

theorem over_limit_of_unlimited (s : Session) (unlimited : s.limit = none) : s.overLimit? = none := by
  rw [overLimit?, unlimited]

theorem within_for_of_unlimited (n : Nat) (s : Session) (unlimited : s.limit = none) : s.WithinFor n := by
  intro i _
  exact over_limit_of_unlimited _ (by rw [limit_step_again, unlimited])

theorem within_for_step (n : Nat) (s : Session) (within : s.WithinFor (n + 1)) :
    s.step.2.WithinFor n :=
  fun i inside => within (i + 1) (by omega)

section Running

variable (fuel : Nat) (s : Session)

theorem run_of_halted (halted : s.machine.halted = true) : s.run (fuel + 1) = (some (.ok ()), s) := by
  rw [run, if_pos halted]

theorem run_of_advances (within : s.overLimit? = none) (advances : s.machine.Advances s.config.bounds) :
    s.run (fuel + 1) = s.step.2.run fuel := by
  have running := Machine.running_of_advances _ _ advances
  obtain ⟨report, stepped⟩ := step_of_advances s advances
  rw [run, if_neg (by simp [running]), within, stepped]

theorem run_of_faulted (within : s.overLimit? = none) (next : Machine) (error : Error)
    (faulted : s.machine.step s.config.bounds = .faulted error next) :
    s.run (fuel + 1) = (some (.error (error.labelled s.name)), s.step.2) := by
  have running := Machine.running_of_faulted _ _ next error faulted
  rw [run, if_neg (by simp [running]), within, step_of_faulted s next error faulted]

theorem run_of_over_limit (running : s.machine.halted = false) (error : Error)
    (spent : s.overLimit? = some error) : s.run (fuel + 1) = (some (.error error), s) := by
  rw [run, if_neg (by simp [running]), spent]

variable (moved : Bool)

theorem not_paused_of_clear
    (clear : moved = true → s.breakpoints.contains s.machine.pointer.position = false) :
    ¬ (moved && s.breakpoints.contains s.machine.pointer.position) = true := by
  intro paused
  obtain ⟨wasMoved, hit⟩ := Bool.and_eq_true_iff.1 paused
  rw [clear wasMoved] at hit
  cases hit

theorem proceed_of_halted (halted : s.machine.halted = true) :
    proceedFrom moved (fuel + 1) s = (some (.ok .halted), s) := by
  rw [proceedFrom, if_pos halted]

theorem proceed_of_breakpoint (running : s.machine.halted = false)
    (hit : s.breakpoints.contains s.machine.pointer.position = true) :
    proceedFrom true (fuel + 1) s =
      (some (.ok (.breakpoint s.machine.pointer.position)),
        s.mapTracer (·.breakpointHit s.machine.pointer.position)) := by
  rw [proceedFrom, if_neg (by simp [running]), if_pos (by simp [hit])]

theorem proceed_of_over_limit (running : s.machine.halted = false) (error : Error)
    (clear : moved = true → s.breakpoints.contains s.machine.pointer.position = false)
    (spent : s.overLimit? = some error) :
    proceedFrom moved (fuel + 1) s = (some (.error error), s) := by
  rw [proceedFrom, if_neg (by simp [running]), if_neg (not_paused_of_clear s moved clear), spent]

theorem proceed_of_advances (within : s.overLimit? = none)
    (clear : moved = true → s.breakpoints.contains s.machine.pointer.position = false)
    (advances : s.machine.Advances s.config.bounds) :
    proceedFrom moved (fuel + 1) s = proceedFrom true fuel s.step.2 := by
  have running := Machine.running_of_advances _ _ advances
  obtain ⟨report, stepped⟩ := step_of_advances s advances
  rw [proceedFrom, if_neg (by simp [running]), if_neg (not_paused_of_clear s moved clear), within,
    stepped]

theorem proceed_of_faulted (within : s.overLimit? = none)
    (clear : moved = true → s.breakpoints.contains s.machine.pointer.position = false)
    (next : Machine) (error : Error)
    (faulted : s.machine.step s.config.bounds = .faulted error next) :
    proceedFrom moved (fuel + 1) s = (some (.error (error.labelled s.name)), s.step.2) := by
  have running := Machine.running_of_faulted _ _ next error faulted
  rw [proceedFrom, if_neg (by simp [running]), if_neg (not_paused_of_clear s moved clear), within,
    step_of_faulted s next error faulted]

end Running

theorem run_walk (n fuel : Nat) (s : Session) (within : s.WithinFor n) (advances : s.AdvancesFor n) :
    s.run (n + fuel) = (stepAgain n s).run fuel := by
  induction n generalizing s with
  | zero => rw [Nat.zero_add]; rfl
  | succ n ih =>
      rw [Nat.add_right_comm, run_of_advances _ s (within 0 (by omega)) (advances 0 (by omega)),
        ih s.step.2 (within_for_step n s within) (advances_for_step n s advances), step_again_succ]

theorem run_reaches (n fuel : Nat) (s : Session) (enough : n < fuel) (within : s.WithinFor n)
    (advances : s.AdvancesFor n) : ∃ rest, s.run fuel = (stepAgain n s).run (rest + 1) := by
  obtain ⟨rest, rfl⟩ := Nat.exists_eq_add_of_lt enough
  exact ⟨rest, run_walk n (rest + 1) s within advances⟩

-- A breakpoint on the way ends the walk, but for one under the pointer where it starts.
theorem proceed_walk (moved : Bool) (n fuel : Nat) (s : Session) (within : s.WithinFor n)
    (advances : s.AdvancesFor n)
    (clear : ∀ i < n, moved = true ∨ 0 < i →
      s.breakpoints.contains (s.machineAt i).pointer.position = false) :
    proceedFrom moved (n + fuel) s = proceedFrom (moved || decide (0 < n)) fuel (stepAgain n s) := by
  induction n generalizing moved s with
  | zero =>
      rw [Nat.zero_add, decide_eq_false (by omega), Bool.or_false]
      rfl
  | succ n ih =>
      have clearBehind : ∀ i < n, true = true ∨ 0 < i →
          s.step.2.breakpoints.contains (s.step.2.machineAt i).pointer.position = false := by
        intro i inside _
        rw [breakpoints_step, machine_at_step]
        exact clear (i + 1) (by omega) (.inr (by omega))
      rw [Nat.add_right_comm, proceed_of_advances _ s moved (within 0 (by omega))
          (fun wasMoved => clear 0 (by omega) (.inl wasMoved)) (advances 0 (by omega)),
        ih true s.step.2 (within_for_step n s within) (advances_for_step n s advances) clearBehind,
        step_again_succ, decide_eq_true (by omega : 0 < n + 1), Bool.or_true, Bool.true_or]

end Session

end Befunge
