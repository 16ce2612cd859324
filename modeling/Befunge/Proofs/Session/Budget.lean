import Mathlib.Order.Bounds.Basic
import Mathlib.Order.Nat
import Befunge.Proofs.Machine.Journal
import Befunge.Proofs.Session.Failure
import Befunge.Proofs.Session.Pauses

/-!
The step limit. A session that has one comes to a place where it is halted, or where the limit is
used up, or where the next step fails, and it does so within the steps that the limit leaves it. A run
ends at the first such place, and it takes no step from there but the one that fails.
-/
set_option autoImplicit false

namespace Befunge

namespace Machine

theorem advances_of_not_fails (bounds : Bounds) (m : Machine) (running : m.halted = false)
    (succeeds : ¬ m.Fails bounds) : m.Advances bounds := by
  cases outcome : m.step bounds with
  | halted after =>
      rw [halted_of_step bounds m after outcome] at running
      cases running
  | stepped report next => exact ⟨report, next, outcome⟩
  | faulted error next => exact absurd ⟨error, next, outcome⟩ succeeds

end Machine

namespace Session

def Due (limit : UInt64) (s : Session) (n : Nat) : Prop :=
  (s.machineAt n).halted = true ∨ limit.toNat ≤ s.machine.steps.toNat + n ∨
    (s.machineAt n).Fails s.config.bounds

instance (limit : UInt64) (s : Session) : DecidablePred (s.Due limit) :=
  fun _ => inferInstanceAs (Decidable (_ ∨ _ ∨ _))

-- How a run ends after so many steps: what it answers, `done` if all is well, and the session that it
-- leaves. Of several reasons the one named first counts.
inductive Ending {α : Type} (done : α) (limit : UInt64) (n : Nat) (s : Session) :
    Except Error α → Session → Prop where
  | halted (halted : (s.machineAt n).halted = true) : Ending done limit n s (.ok done) (stepAgain n s)
  | exhausted (running : (s.machineAt n).halted = false)
      (used : limit.toNat ≤ s.machine.steps.toNat + n) :
      Ending done limit n s (.error ((stepAgain n s).exhausted limit)) (stepAgain n s)
  | faulted (left : s.machine.steps.toNat + n < limit.toNat) (error : Error) (next : Machine)
      (faulted : (s.machineAt n).step s.config.bounds = .faulted error next) :
      Ending done limit n s (.error (error.labelled s.name)) (stepAgain (n + 1) s)

def reportAfter (last : Option Report) (s : Session) : Nat → Option Report
  | 0 => last
  | n + 1 =>
      match (s.machineAt n).step s.config.bounds with
      | .stepped report _ => some report
      | .halted _ | .faulted _ _ => none

theorem steps_machine_at (n : Nat) (s : Session) (advances : s.AdvancesFor n)
    (fits : s.machine.steps.toNat + n < 2 ^ 64) :
    (s.machineAt n).steps.toNat = s.machine.steps.toNat + n := by
  induction n with
  | zero => rfl
  | succ n ih =>
      obtain ⟨report, next, stepped⟩ := advances n (by omega)
      have here := ih (fun i inside => advances i (by omega)) (by omega)
      have told := Machine.told_of_stepped _ _ next report stepped
      have moved : s.machineAt (n + 1) = next := Machine.attempts_succ_of_stepped _ n _ next report stepped
      rw [moved, told.steps, UInt64.toNat_add, here, UInt64.toNat_one, Nat.mod_eq_of_lt (by omega),
        Nat.add_assoc]

theorem over_limit_step_again (limit : UInt64) (n : Nat) (s : Session) (limited : s.limit = some limit)
    (advances : s.AdvancesFor n) (fits : s.machine.steps.toNat + n < 2 ^ 64) :
    (stepAgain n s).overLimit? =
      if limit.toNat ≤ s.machine.steps.toNat + n then some ((stepAgain n s).exhausted limit)
      else none := by
  rw [over_limit_of_limited limit _ ((limit_step_again n s).trans limited), machine_step_again,
    steps_machine_at n s advances fits]

section Limited

variable (limit : UInt64) (n : Nat) (s : Session)

theorem due_within : s.Due limit (limit.toNat - s.machine.steps.toNat) :=
  .inr (.inl (by omega))

theorem advances_for_of_not_due (early : ∀ i < n, ¬ s.Due limit i) : s.AdvancesFor n := by
  intro i before
  have running : (s.machineAt i).halted = false :=
    Bool.eq_false_iff.2 fun halted => early i before (.inl halted)
  exact Machine.advances_of_not_fails _ _ running fun fails => early i before (.inr (.inr fails))

-- Up to the first reason to end the count of steps does not wrap.
theorem fits_of_not_due (early : ∀ i < n, ¬ s.Due limit i) : s.machine.steps.toNat + n < 2 ^ 64 := by
  have steps := s.machine.steps.toNat_lt
  have bound := limit.toNat_lt
  by_cases some : 0 < n
  · have before : ¬ limit.toNat ≤ s.machine.steps.toNat + (n - 1) :=
      fun used => early (n - 1) (by omega) (.inr (.inl used))
    omega
  · omega

theorem within_for_of_not_due (limited : s.limit = some limit) (early : ∀ i < n, ¬ s.Due limit i) :
    s.WithinFor n := by
  intro i before
  have earlier : ∀ k < i, ¬ s.Due limit k := fun k inside => early k (by omega)
  rw [over_limit_step_again limit i s limited (advances_for_of_not_due limit i s earlier)
    (fits_of_not_due limit i s earlier), if_neg fun used => early i before (.inr (.inl used))]

theorem ending_of_due {α : Type} (done : α) (due : s.Due limit n) :
    ∃ result ended, Ending done limit n s result ended := by
  cases halted : (s.machineAt n).halted with
  | true => exact ⟨_, _, .halted halted⟩
  | false =>
      by_cases used : limit.toNat ≤ s.machine.steps.toNat + n
      · exact ⟨_, _, .exhausted halted used⟩
      · rw [Due, halted] at due
        obtain ⟨error, next, faulted⟩ := (due.resolve_left Bool.false_ne_true).resolve_left used
        exact ⟨_, _, .faulted (by omega) error next faulted⟩

section First

-- The steps before the first reason to end are taken by every run.
variable (limited : s.limit = some limit) (early : ∀ i < n, ¬ s.Due limit i)

include limited early

theorem over_limit_at (used : limit.toNat ≤ s.machine.steps.toNat + n) :
    (stepAgain n s).overLimit? = some ((stepAgain n s).exhausted limit) := by
  rw [over_limit_step_again limit n s limited (advances_for_of_not_due limit n s early)
    (fits_of_not_due limit n s early), if_pos used]

theorem within_at (left : s.machine.steps.toNat + n < limit.toNat) :
    (stepAgain n s).overLimit? = none := by
  rw [over_limit_step_again limit n s limited (advances_for_of_not_due limit n s early)
    (fits_of_not_due limit n s early), if_neg (by omega)]

theorem run_ends (result : Except Error Unit) (ended : Session)
    (ending : Ending () limit n s result ended) (fuel : Nat) (enough : n < fuel) :
    s.run fuel = (some result, ended) := by
  obtain ⟨rest, reached⟩ := run_reaches n fuel s enough
    (within_for_of_not_due limit n s limited early) (advances_for_of_not_due limit n s early)
  rw [reached]
  cases ending with
  | halted halted => exact run_of_halted rest _ (by rwa [machine_step_again])
  | exhausted running used =>
      exact run_of_over_limit rest _ (by rwa [machine_step_again]) _
        (over_limit_at limit n s limited early used)
  | faulted left error next faulted =>
      rw [run_of_faulted rest _ (within_at limit n s limited early left) next error
        (by rwa [machine_step_again, config_step_again]), name_step_again, step_again_succ']

theorem proceed_from_start (fuel : Nat) (enough : n < fuel)
    (clear : ∀ i, 0 < i → i < n → s.hitAt i = false) :
    ∃ rest, s.proceed fuel = proceedFrom (decide (0 < n)) (rest + 1) (stepAgain n s) := by
  obtain ⟨rest, rfl⟩ := Nat.exists_eq_add_of_lt enough
  refine ⟨rest, ?_⟩
  rw [proceed, Nat.add_assoc, proceed_walk false n (rest + 1) s
    (within_for_of_not_due limit n s limited early) (advances_for_of_not_due limit n s early),
    Bool.false_or]
  exact fun i before moved => clear i (moved.resolve_left (by simp)) before

theorem proceed_stops (moved : 0 < n) (running : (s.machineAt n).halted = false)
    (hit : s.hitAt n = true) (clear : ∀ i, 0 < i → i < n → s.hitAt i = false) (fuel : Nat)
    (enough : n < fuel) :
    s.proceed fuel =
      (some (.ok (.breakpoint (s.machineAt n).pointer.position)),
        (stepAgain n s).mapTracer (·.breakpointHit (s.machineAt n).pointer.position)) := by
  obtain ⟨rest, reached⟩ := proceed_from_start limit n s limited early fuel enough clear
  rw [reached, decide_eq_true moved, proceed_of_breakpoint rest _ (by rwa [machine_step_again])
      (by rwa [machine_step_again, breakpoints_step_again]), machine_step_again]

theorem proceed_ends (result : Except Error Stop) (ended : Session)
    (ending : Ending .halted limit n s result ended)
    (clear : ∀ i, 0 < i → i ≤ n → (s.machineAt i).halted = false → s.hitAt i = false) (fuel : Nat)
    (enough : n < fuel) : s.proceed fuel = (some result, ended) := by
  have passed : ∀ i, 0 < i → i < n → s.hitAt i = false := fun i moved before =>
    clear i moved (by omega) (Bool.eq_false_iff.2 fun halted => early i before (.inl halted))
  have free : (s.machineAt n).halted = false → decide (0 < n) = true →
      (stepAgain n s).breakpoints.contains (stepAgain n s).machine.pointer.position = false := by
    intro running moved
    rw [machine_step_again, breakpoints_step_again]
    exact clear n (of_decide_eq_true moved) (Nat.le_refl n) running
  obtain ⟨rest, reached⟩ := proceed_from_start limit n s limited early fuel enough passed
  rw [reached]
  cases ending with
  | halted halted => exact proceed_of_halted rest _ _ (by rwa [machine_step_again])
  | exhausted running used =>
      exact proceed_of_over_limit rest _ _ (by rwa [machine_step_again]) _ (free running)
        (over_limit_at limit n s limited early used)
  | faulted left error next faulted =>
      have running := Machine.running_of_faulted _ _ next error faulted
      rw [proceed_of_faulted rest _ _ (within_at limit n s limited early left) (free running) next error
        (by rwa [machine_step_again, config_step_again]), name_step_again, step_again_succ']

end First

end Limited

theorem report_after_step (last : Option Report) (n : Nat) (s : Session) (report : Report)
    (next : Machine) (stepped : s.machine.step s.config.bounds = .stepped report next) :
    reportAfter (some report) s.step.2 n = reportAfter last s (n + 1) := by
  cases n with
  | zero =>
      change some report = match s.machine.step s.config.bounds with
        | .stepped report _ => some report
        | .halted _ | .faulted _ _ => none
      rw [stepped]
  | succ n => rw [reportAfter, reportAfter, machine_at_step, config_step]

theorem steps_after_walk (last : Option Report) (n rest : Nat) (s : Session)
    (advances : s.AdvancesFor n) :
    stepsAfter last (n + rest) s = stepsAfter (reportAfter last s n) rest (stepAgain n s) := by
  induction n generalizing last s with
  | zero => rw [Nat.zero_add]; rfl
  | succ n ih =>
      obtain ⟨report, next, stepped⟩ := advances 0 (by omega)
      have taken : s.step = (.ok (some report), s.step.2) := by
        refine Prod.ext ?_ rfl
        rw [step_answer]
        exact congrArg (answer s.name) stepped
      rw [Nat.add_right_comm, stepsAfter, taken]
      dsimp only
      rw [ih (some report) s.step.2 (advances_for_step n s advances),
        report_after_step last n s report next stepped, step_again_succ]

theorem steps_ends (count : Nat) (s : Session) :
    (s.AdvancesFor count ∧ s.steps count = (.ok (reportAfter none s count), stepAgain count s)) ∨
    (∃ n < count, s.AdvancesFor n ∧ (s.machineAt n).halted = true ∧
      s.steps count = (.ok (reportAfter none s n), stepAgain n s)) ∨
    ∃ n < count, ∃ error next, s.AdvancesFor n ∧
      (s.machineAt n).step s.config.bounds = .faulted error next ∧
      s.steps count = (.error (error.labelled s.name), stepAgain (n + 1) s) := by
  by_cases whole : s.AdvancesFor count
  · exact .inl ⟨whole, steps_after_walk none count 0 s whole⟩
  · have stuck : ∃ n, n < count ∧ ¬ (s.machineAt n).Advances s.config.bounds := by
      simpa [AdvancesFor] using whole
    obtain ⟨inside, stays⟩ := Nat.find_spec stuck
    have first : s.AdvancesFor (Nat.find stuck) := fun i before =>
      Decidable.not_not.1 fun fails => Nat.find_min stuck before ⟨by omega, fails⟩
    generalize Nat.find stuck = n at inside stays first
    obtain ⟨rest, rfl⟩ := Nat.exists_eq_add_of_lt inside
    rw [Nat.add_assoc, steps, steps_after_walk none n (rest + 1) s first, stepsAfter]
    have machine := machine_step_again s n
    cases outcome : (s.machineAt n).step s.config.bounds with
    | halted after =>
        have halted := Machine.halted_of_step _ _ after outcome
        rw [step_of_halted _ (by rwa [machine])]
        exact .inr (.inl ⟨n, by omega, first, halted, rfl⟩)
    | stepped report next => exact absurd ⟨report, next, outcome⟩ stays
    | faulted error next =>
        rw [step_of_faulted _ next error (by rwa [machine, config_step_again]), name_step_again,
          ← step_again_succ']
        exact .inr (.inr ⟨n, by omega, error, next, first, outcome, rfl⟩)

-- With a limit, every run ends. `j` is the first place at which it has to: it takes the steps up to
-- there, unless it heeds breakpoints and comes to one, and then it ends for the reason that counts.
-- Explicit steps know neither limit nor breakpoints.
theorem step_budget_exact (s : Session) (limit : UInt64) (limited : s.limit = some limit) :
    ∃ j, IsLeast {n | s.Due limit n} j ∧ j ≤ limit.toNat - s.machine.steps.toNat ∧
      s.AdvancesFor j ∧ (∀ i, (stepAgain i s).machine = s.machineAt i) ∧
      (∃ result ended, Ending () limit j s result ended ∧
        ∀ fuel, j < fuel → s.run fuel = (some result, ended)) ∧
      (∀ i, IsLeast {i | 1 ≤ i ∧ i ≤ j ∧ (s.machineAt i).halted = false ∧ s.hitAt i = true} i →
        ∀ fuel, i < fuel → s.proceed fuel =
          (some (.ok (.breakpoint (s.machineAt i).pointer.position)),
            (stepAgain i s).mapTracer (·.breakpointHit (s.machineAt i).pointer.position))) ∧
      ((∀ i, 1 ≤ i → i ≤ j → (s.machineAt i).halted = false → s.hitAt i = false) →
        ∃ result ended, Ending .halted limit j s result ended ∧
          ∀ fuel, j < fuel → s.proceed fuel = (some result, ended)) ∧
      ∀ count other places,
        let t := { s with limit := other, breakpoints := places }
        (s.AdvancesFor count ∧ t.steps count = (.ok (reportAfter none s count), stepAgain count t)) ∨
        (∃ n < count, s.AdvancesFor n ∧ (s.machineAt n).halted = true ∧
          t.steps count = (.ok (reportAfter none s n), stepAgain n t)) ∨
        ∃ n < count, ∃ error next, s.AdvancesFor n ∧
          (s.machineAt n).step s.config.bounds = .faulted error next ∧
          t.steps count = (.error (error.labelled s.name), stepAgain (n + 1) t) := by
  obtain ⟨j, least⟩ : ∃ j, IsLeast {n | s.Due limit n} j :=
    ⟨_, Nat.isLeast_find ⟨_, due_within limit s⟩⟩
  have early : ∀ i < j, ¬ s.Due limit i := fun i before due => absurd (least.2 due) (by omega)
  refine ⟨j, least, least.2 (due_within limit s), advances_for_of_not_due limit j s early,
    machine_step_again s, ?_, ?_, ?_, ?_⟩
  · obtain ⟨result, ended, ending⟩ := ending_of_due limit j s () least.1
    exact ⟨result, ended, ending, run_ends limit j s limited early result ended ending⟩
  · rintro i ⟨⟨moved, upTo, running, hit⟩, first⟩ fuel enough
    refine proceed_stops limit i s limited (fun k before => early k (by omega)) moved running hit ?_
      fuel enough
    intro k inside before
    have going := (advances_for_of_not_due limit j s early) k (by omega)
    by_contra hitBefore
    exact absurd (first ⟨inside, by omega, Machine.running_of_advances _ _ going, by simpa using hitBefore⟩)
      (by omega)
  · intro clear
    obtain ⟨result, ended, ending⟩ := ending_of_due limit j s Stop.halted least.1
    exact ⟨result, ended, ending, proceed_ends limit j s limited early result ended ending clear⟩
  · intro count other places
    exact steps_ends count { s with limit := other, breakpoints := places }

-- One step short of its end, with a breakpoint where the limit is used up.
def short : Session :=
  { start "12@" { seed := 0 } with limit := some 2, breakpoints := .ofList [⟨2, 0⟩] }

theorem step_budget_exact_at_a_breakpoint :
    short.limit = some 2 ∧ IsLeast {n | short.Due 2 n} 2 ∧
      short.run 9 = (some (.error ((stepAgain 2 short).exhausted 2)), stepAgain 2 short) ∧
      (short.proceed 9).1 = some (.ok (.breakpoint ⟨2, 0⟩)) := by
  have place : (short.machineAt 2).pointer.position = ⟨2, 0⟩ := by decide +kernel
  have running : (short.machineAt 2).halted = false := by decide +kernel
  have early : ∀ n < 2, ¬ short.Due 2 n := by decide +kernel
  have due : IsLeast {n | short.Due 2 n} 2 := by
    refine ⟨show short.Due 2 2 by decide +kernel, ?_⟩
    intro n later
    by_contra before
    exact early n (by omega) later
  have stop : IsLeast
      {i | 1 ≤ i ∧ i ≤ 2 ∧ (short.machineAt i).halted = false ∧ short.hitAt i = true} 2 := by
    refine ⟨⟨by omega, by omega, running, by decide +kernel⟩, ?_⟩
    rintro i ⟨moved, _, _, hit⟩
    by_contra before
    obtain rfl : i = 1 := by omega
    exact absurd hit (by decide +kernel)
  obtain ⟨j, least, _, _, _, ⟨result, ended, ending, ran⟩, stops, _⟩ :=
    step_budget_exact short 2 rfl
  obtain rfl : j = 2 := least.unique due
  refine ⟨rfl, due, ?_, ?_⟩
  · cases ending with
    | halted halted => rw [running] at halted; cases halted
    | exhausted _ used => exact ran 9 (by omega)
    | faulted left error next faulted => exact absurd left (by decide +kernel)
  · rw [stops 2 stop 9 (by omega), place]

end Session

end Befunge
