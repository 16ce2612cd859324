import Befunge.Proofs.Session.Lockstep

/-!
Runs that heed breakpoints. However often the pointer comes to a breakpoint, so often such a run
ends there, each time before the cell is executed; and whatever the breakpoints are, the calls
together do what one run past all of them does.
-/
set_option autoImplicit false

namespace Befunge

namespace Session

-- Breakpoints hold a place, not a cell: the pointer comes to it each time round a loop, and also
-- where nothing is written.
def hitAt (s : Session) (n : Nat) : Bool :=
  s.breakpoints.contains (s.machineAt n).pointer.position

-- The numbers of the steps that lead to a breakpoint. The place of the start is not come to.
def arrivals (s : Session) (n : Nat) : List Nat :=
  (List.range' 1 n).filter s.hitAt

def pausedAt (s : Session) (n : Nat) : Answer × Machine :=
  (.stopped (some (.ok (.breakpoint (s.machineAt n).pointer.position))), s.machineAt n)

-- One run after the other, each from where the last one ended.
def proceeds (count fuel : Nat) (s : Session) : List (Answer × Machine) × Session :=
  moves (List.replicate count (.proceed fuel)) s

theorem arrivals_succ (s : Session) (n : Nat) :
    s.arrivals (n + 1) = s.arrivals n ++ if s.hitAt (n + 1) then [n + 1] else [] := by
  rw [arrivals, List.range'_concat, List.filter_append, Nat.one_mul, Nat.add_comm 1 n,
    List.filter_cons, List.filter_nil]
  rfl

theorem moves_append (first rest : List Move) (s : Session) :
    moves (first ++ rest) s =
      ((moves first s).1 ++ (moves rest (moves first s).2).1, (moves rest (moves first s).2).2) := by
  induction first generalizing s with
  | nil => rfl
  | cons m tail ih => simp only [List.cons_append, moves, ih]

theorem proceeds_succ (count fuel : Nat) (s : Session) :
    proceeds (count + 1) fuel s =
      ((proceeds count fuel s).1 ++
          [(.stopped ((proceeds count fuel s).2.proceed fuel).1,
            ((proceeds count fuel s).2.proceed fuel).2.machine)],
        ((proceeds count fuel s).2.proceed fuel).2) := by
  rw [proceeds, List.replicate_succ', moves_append]
  rfl

-- The session `n` steps on from `s`, but for what its tracer has been told.
structure Stands (s : Session) (n : Nat) (t : Session) : Prop where
  course : SameCourse t (stepAgain n s)
  settings : t.settings = s.settings

section Standing

variable (s t : Session) (m n : Nat) (stands : Stands s m t)

include stands

theorem stands_machine : t.machine = s.machineAt m := by
  rw [stands.course.machine, machine_step_again]

theorem stands_breakpoints : t.breakpoints = s.breakpoints :=
  congrArg Settings.breakpoints stands.settings

theorem stands_name : t.name = s.name :=
  congrArg Settings.name stands.settings

theorem stands_config : t.config = s.config :=
  congrArg Settings.config stands.settings

theorem stands_limit : t.limit = s.limit :=
  congrArg Settings.limit stands.settings

theorem stands_step_again : Stands s (m + n) (stepAgain n t) where
  course := by
    rw [step_again_add]
    exact same_course_step_again n t (stepAgain m s) stands.course
  settings := (settings_step_again n t).trans stands.settings

theorem stands_machine_at : t.machineAt n = s.machineAt (m + n) := by
  rw [← machine_step_again t, stands_machine s _ (m + n) (stands_step_again s t m n stands)]

theorem stands_hit_at : t.hitAt n = s.hitAt (m + n) := by
  rw [hitAt, hitAt, stands_breakpoints s t m stands, stands_machine_at s t m n stands]

-- From `m` steps on to `m + n` steps on in one call, with no breakpoint strictly between.
theorem proceed_from_stands (fuel : Nat) (unlimited : s.limit = none)
    (advances : s.AdvancesFor (m + n)) (clear : ∀ i, m < i → i < m + n → s.hitAt i = false) :
    t.proceed (n + fuel) = proceedFrom (decide (0 < n)) fuel (stepAgain n t) := by
  have limit : t.limit = none := by rw [stands_limit s t m stands, unlimited]
  have going : t.AdvancesFor n := by
    intro i inside
    rw [stands_machine_at s t m i stands, stands_config s t m stands]
    exact advances (m + i) (by omega)
  have passed : ∀ i < n, false = true ∨ 0 < i →
      t.breakpoints.contains (t.machineAt i).pointer.position = false := by
    intro i inside moved
    have behind : 0 < i := moved.resolve_left (by simp)
    have free := clear (m + i) (by omega) (by omega)
    rwa [← stands_hit_at s t m i stands] at free
  rw [proceed, proceed_walk false n fuel t (within_for_of_unlimited n t limit) going passed,
    Bool.false_or]

theorem proceed_reaches (fuel : Nat) (unlimited : s.limit = none) (ahead : m ≤ n)
    (enough : n < fuel) (advances : s.AdvancesFor n)
    (clear : ∀ i, m < i → i < n → s.hitAt i = false) :
    ∃ rest u, t.proceed fuel = proceedFrom (decide (m < n)) (rest + 1) u ∧ Stands s n u := by
  obtain ⟨way, rfl⟩ := Nat.exists_eq_add_of_le ahead
  obtain ⟨rest, rfl⟩ := Nat.exists_eq_add_of_lt (show way < fuel by omega)
  have walked := proceed_from_stands s t m way stands (rest + 1) unlimited advances clear
  refine ⟨rest, stepAgain way t, ?_, stands_step_again s t m way stands⟩
  rw [Nat.add_assoc, walked, decide_eq_decide.2 (show 0 < way ↔ m < m + way by omega)]

theorem proceed_pauses (fuel : Nat) (unlimited : s.limit = none) (ahead : m < n)
    (enough : n < fuel) (advances : s.AdvancesFor n)
    (clear : ∀ i, m < i → i < n → s.hitAt i = false)
    (running : (s.machineAt n).halted = false) (hit : s.hitAt n = true) :
    (t.proceed fuel).1 = some (.ok (.breakpoint (s.machineAt n).pointer.position)) ∧
      Stands s n (t.proceed fuel).2 := by
  obtain ⟨rest, u, reached, standing⟩ :=
    proceed_reaches s t m n stands fuel unlimited (by omega) enough advances clear
  have machine := stands_machine s u n standing
  rw [decide_eq_true ahead, proceed_of_breakpoint rest u (by rw [machine]; exact running)
    (by rw [stands_breakpoints s u n standing, machine]; exact hit), machine] at reached
  rw [reached]
  exact ⟨rfl, { standing.course with }, standing.settings⟩

theorem proceed_halts (fuel : Nat) (unlimited : s.limit = none) (ahead : m ≤ n)
    (enough : n < fuel) (advances : s.AdvancesFor n)
    (clear : ∀ i, m < i → i < n → s.hitAt i = false)
    (halted : (s.machineAt n).halted = true) :
    (t.proceed fuel).1 = some (.ok .halted) ∧ Stands s n (t.proceed fuel).2 := by
  obtain ⟨rest, u, reached, standing⟩ :=
    proceed_reaches s t m n stands fuel unlimited ahead enough advances clear
  rw [proceed_of_halted rest u _ (by rw [stands_machine s u n standing]; exact halted)] at reached
  rw [reached]
  exact ⟨rfl, standing⟩

-- A breakpoint at the failing cell itself has been reported before, or the call starts on it.
theorem proceed_fails (fuel : Nat) (unlimited : s.limit = none) (ahead : m ≤ n)
    (enough : n < fuel) (advances : s.AdvancesFor n)
    (clear : ∀ i, m < i → i ≤ n → s.hitAt i = false) (next : Machine) (error : Error)
    (faulted : (s.machineAt n).step s.config.bounds = .faulted error next) :
    (t.proceed fuel).1 = some (.error (error.labelled s.name)) ∧
      Stands s (n + 1) (t.proceed fuel).2 := by
  obtain ⟨rest, u, reached, standing⟩ :=
    proceed_reaches s t m n stands fuel unlimited ahead enough advances
      (fun i after before => clear i after (by omega))
  have machine := stands_machine s u n standing
  have failing : u.machine.step u.config.bounds = .faulted error next := by
    rw [machine, stands_config s u n standing]
    exact faulted
  have free : decide (m < n) = true → u.breakpoints.contains u.machine.pointer.position = false := by
    intro moved
    rw [stands_breakpoints s u n standing, machine]
    exact clear n (of_decide_eq_true moved) (by omega)
  have within := over_limit_of_unlimited u (by rw [stands_limit s u n standing, unlimited])
  rw [proceed_of_faulted rest u _ within free next error failing, stands_name s u n standing] at reached
  rw [reached]
  exact ⟨rfl, stands_step_again s u n 1 standing⟩

end Standing

theorem stands_after (s : Session) (n : Nat) : Stands s n (stepAgain n s) where
  course := ⟨rfl, rfl, rfl, rfl, rfl⟩
  settings := settings_step_again n s

-- Induction on the steps: one that leads to no breakpoint is left to a later call, and one that
-- leads to a breakpoint ends a call there.
theorem proceeds_reach (s : Session) (n fuel : Nat) (unlimited : s.limit = none) (enough : n < fuel)
    (advances : s.AdvancesFor n) (running : (s.machineAt n).halted = false) :
    ∃ last, last ≤ n ∧ (∀ i, last < i → i ≤ n → s.hitAt i = false) ∧
      Stands s last (proceeds (s.arrivals n).length fuel s).2 ∧
      (proceeds (s.arrivals n).length fuel s).1 = (s.arrivals n).map s.pausedAt := by
  induction n with
  | zero => exact ⟨0, Nat.le_refl 0, by omega, stands_after s 0, rfl⟩
  | succ n ih =>
      have going := Machine.running_of_advances _ _ (advances n (by omega))
      obtain ⟨last, behind, clear, stands, answers⟩ :=
        ih (by omega) (fun i inside => advances i (by omega)) going
      rw [arrivals_succ]
      cases hit : s.hitAt (n + 1) with
      | false =>
          rw [if_neg (by simp), List.append_nil]
          refine ⟨last, by omega, ?_, stands, answers⟩
          intro i after upTo
          rcases Nat.lt_or_eq_of_le upTo with before | rfl
          · exact clear i after (by omega)
          · exact hit
      | true =>
          obtain ⟨stopped, standing⟩ := proceed_pauses s _ last (n + 1) stands fuel unlimited
            (by omega) enough advances (fun i after before => clear i after (by omega)) running hit
          rw [if_pos rfl, List.length_append, List.length_singleton, proceeds_succ]
          refine ⟨n + 1, Nat.le_refl _, by omega, standing, ?_⟩
          rw [answers, stopped, stands_machine s _ (n + 1) standing, List.map_append]
          rfl

-- How calls end that come to the end of the program: as one run past all breakpoints does, whatever
-- breakpoints it has, and with nothing set otherwise than before.
structure EndsAsRun (s ended : Session) (fuel : Nat) (result : Except Error Unit) : Prop where
  settings : ended.settings = s.settings
  result : ∀ breakpoints, ({ s with breakpoints }.run fuel).1 = some result
  machine : ∀ breakpoints, ended.machine = ({ s with breakpoints }.run fuel).2.machine
  history : ∀ breakpoints, ended.history = ({ s with breakpoints }.run fuel).2.history

theorem ends_as_run (s ended : Session) (n fuel : Nat) (result : Except Error Unit)
    (stands : Stands s n ended) (whole : s.run fuel = (some result, stepAgain n s)) :
    EndsAsRun s ended fuel result := by
  have other : ∀ breakpoints, ({ s with breakpoints }.run fuel).1 = some result ∧
      SameCourse ({ s with breakpoints }.run fuel).2 (stepAgain n s) := by
    intro breakpoints
    have ran := run_lockstep lockstep_same_course fuel { s with breakpoints } s
      ⟨rfl, rfl, rfl, rfl, rfl⟩
    rwa [whole] at ran
  exact
    { settings := stands.settings
      result := fun breakpoints => (other breakpoints).1
      machine := fun breakpoints => stands.course.machine.trans (other breakpoints).2.machine.symm
      history := fun breakpoints => stands.course.history.trans (other breakpoints).2.history.symm }

theorem run_to_halt (s : Session) (n fuel : Nat) (unlimited : s.limit = none) (enough : n < fuel)
    (advances : s.AdvancesFor n) (halted : (s.machineAt n).halted = true) :
    s.run fuel = (some (.ok ()), stepAgain n s) := by
  have within := within_for_of_unlimited n s unlimited
  obtain ⟨rest, reached⟩ := run_reaches n fuel s enough within advances
  rw [reached, run_of_halted rest _ (by rwa [machine_step_again])]

theorem run_to_fault (s : Session) (n fuel : Nat) (unlimited : s.limit = none) (enough : n < fuel)
    (advances : s.AdvancesFor n) (next : Machine) (error : Error)
    (faulted : (s.machineAt n).step s.config.bounds = .faulted error next) :
    s.run fuel = (some (.error (error.labelled s.name)), stepAgain (n + 1) s) := by
  have within := within_for_of_unlimited (n + 1) s unlimited
  obtain ⟨rest, reached⟩ := run_reaches n fuel s enough (fun i inside => within i (by omega)) advances
  rw [reached, run_of_faulted rest _ (within n (by omega)) next error
    (by rwa [machine_step_again, config_step_again]), name_step_again, step_again_succ']

-- Calls without a step limit, from a session that has not halted. The first calls report the arrivals
-- at breakpoints, each once and in order. If the program halts or a step fails, the next call tells,
-- and the end is that of one run; if neither ever happens, a call after the last arrival of all does
-- not return.
theorem proceed_reports_every_arrival (s : Session) (running : s.machine.halted = false)
    (unlimited : s.limit = none) :
    ((∃ n, s.AdvancesFor (n + 1) ∧ (s.machineAt (n + 1)).halted = true) ∨
      (∃ n error next, s.AdvancesFor n ∧
        (s.machineAt n).step s.config.bounds = .faulted error next) ∨
      ∀ n, s.AdvancesFor n) ∧
    (∀ n fuel, n < fuel → s.AdvancesFor n → (s.machineAt n).halted = false →
      (proceeds (s.arrivals n).length fuel s).1 = (s.arrivals n).map s.pausedAt) ∧
    (∀ n fuel, n + 1 < fuel → s.AdvancesFor (n + 1) → (s.machineAt (n + 1)).halted = true →
      let calls := proceeds ((s.arrivals n).length + 1) fuel s
      calls.1 = (s.arrivals n).map s.pausedAt ++
          [(.stopped (some (.ok .halted)), s.machineAt (n + 1))] ∧
        EndsAsRun s calls.2 fuel (.ok ())) ∧
    (∀ n fuel error next, n < fuel → s.AdvancesFor n →
      (s.machineAt n).step s.config.bounds = .faulted error next →
      let calls := proceeds ((s.arrivals n).length + 1) fuel s
      calls.1 = (s.arrivals n).map s.pausedAt ++
          [(.stopped (some (.error (error.labelled s.name))), next)] ∧
        EndsAsRun s calls.2 fuel (.error (error.labelled s.name))) ∧
    ∀ n fuel longer, n < fuel → (∀ k, s.AdvancesFor k) → (∀ i, n < i → s.hitAt i = false) →
      ((proceeds (s.arrivals n).length fuel s).2.proceed longer).1 = none := by
  refine ⟨course_ends s running, ?_, ?_, ?_, ?_⟩
  · intro n fuel enough advances going
    obtain ⟨_, _, _, _, answers⟩ := proceeds_reach s n fuel unlimited enough advances going
    exact answers
  · intro n fuel enough advances halted
    have going := Machine.running_of_advances _ _ (advances n (by omega))
    obtain ⟨last, behind, clear, stands, answers⟩ :=
      proceeds_reach s n fuel unlimited (by omega) (fun i before => advances i (by omega)) going
    obtain ⟨stopped, standing⟩ := proceed_halts s _ last (n + 1) stands fuel unlimited (by omega)
      enough advances (fun i after before => clear i after (by omega)) halted
    rw [proceeds_succ]
    refine ⟨?_, ends_as_run s _ (n + 1) fuel _ standing
      (run_to_halt s (n + 1) fuel unlimited enough advances halted)⟩
    rw [answers, stopped, stands_machine s _ (n + 1) standing]
  · intro n fuel error next enough advances faulted
    have going := Machine.running_of_faulted _ _ next error faulted
    obtain ⟨last, behind, clear, stands, answers⟩ :=
      proceeds_reach s n fuel unlimited enough advances going
    obtain ⟨stopped, standing⟩ := proceed_fails s _ last n stands fuel unlimited behind enough
      advances clear next error faulted
    rw [proceeds_succ]
    refine ⟨?_, ends_as_run s _ (n + 1) fuel _ standing
      (run_to_fault s n fuel unlimited enough advances next error faulted)⟩
    rw [answers, stopped, stands_machine s _ (n + 1) standing, machine_at_of_faulted s n next error faulted]
  · intro n fuel longer enough advances clearAfter
    have going := Machine.running_of_advances _ _ (advances (n + 1) n (by omega))
    obtain ⟨last, behind, clear, stands, _⟩ :=
      proceeds_reach s n fuel unlimited enough (advances n) going
    have clearAhead : ∀ i, last < i → i < last + longer → s.hitAt i = false := by
      intro i after _
      by_cases upTo : i ≤ n
      · exact clear i after upTo
      · exact clearAfter i (by omega)
    have walked := proceed_from_stands s _ last longer stands 0 unlimited (advances _) clearAhead
    rw [Nat.add_zero] at walked
    rw [walked]
    rfl

-- A loop that prints two letters backwards, with breakpoints where it starts, on the cell that `#`
-- jumps over on the way right, on the place that ends it, and on one that nothing comes to.
def looping : Session :=
  { start "\"ab\">:#,_@" { seed := 0 } with
    breakpoints := .ofList [⟨0, 0⟩, ⟨7, 0⟩, ⟨9, 0⟩, ⟨3, 7⟩] }

theorem proceed_reports_every_arrival_of_a_loop :
    looping.machine.halted = false ∧ looping.limit = none ∧ looping.arrivals 20 = [8, 14, 20] ∧
      (looping.arrivals 20).map (fun n => (looping.machineAt n).pointer.position) =
        [⟨7, 0⟩, ⟨7, 0⟩, ⟨9, 0⟩] ∧
      (proceeds 4 30 looping).1 =
        [looping.pausedAt 8, looping.pausedAt 14, looping.pausedAt 20,
          (.stopped (some (.ok .halted)), looping.machineAt 21)] ∧
      EndsAsRun looping (proceeds 4 30 looping).2 30 (.ok ()) := by
  have running : looping.machine.halted = false := by decide +kernel
  have advances : looping.AdvancesFor 21 := by decide +kernel
  have halted : (looping.machineAt 21).halted = true := by decide +kernel
  have reached : looping.arrivals 20 = [8, 14, 20] := by decide +kernel
  obtain ⟨_, _, ends, _⟩ := proceed_reports_every_arrival looping running rfl
  obtain ⟨answers, ended⟩ := ends 20 30 (by decide) advances halted
  rw [reached] at answers ended
  exact ⟨running, rfl, reached, by decide +kernel, answers, ended⟩

end Session

end Befunge
