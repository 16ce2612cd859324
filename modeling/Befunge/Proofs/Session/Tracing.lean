import Befunge.Proofs.Session.Course
import Befunge.Proofs.Trace.Log
import Befunge.Proofs.Trace.Story

/-!
A trace is a faithful log. While tracing is on, the story of every step is offered to the tracer, once
and in order. The log gains just those events that the filter lets through, and where it lets all of
them through, output and playfield can be had back from it.
-/
set_option autoImplicit false

namespace Befunge

namespace Tracer

-- Between the two, with tracing on, these events were offered to the tracer.
structure Offered (before : Tracer) (told : List (UInt64 × Trace.Event)) (after : Tracer) : Prop where
  enabled : after.enabled = before.enabled
  kinds : after.kinds = before.kinds
  log : before.log.Gains (told.filter (Trace.passes before.kinds)) after.log

theorem offered_nothing (t : Tracer) : t.Offered [] t :=
  ⟨rfl, rfl, Trace.Log.gains_nothing t.log⟩

theorem offered_append (before middle after : Tracer) (told later : List (UInt64 × Trace.Event))
    (first : before.Offered told middle) (second : middle.Offered later after) :
    before.Offered (told ++ later) after where
  enabled := second.enabled.trans first.enabled
  kinds := second.kinds.trans first.kinds
  log := by
    have gains := second.log
    rw [first.kinds] at gains
    rw [List.filter_append]
    exact Trace.Log.gains_append _ _ _ _ _ first.log gains

theorem accepts_eq_passes (t : Tracer) (step : UInt64) (event : Trace.Event) :
    t.accepts event = Trace.passes t.kinds (step, event) := by
  rw [accepts, Trace.passes, Bool.decide_or, List.contains_eq_mem]
  cases t.kinds with
  | nil => rfl
  | cons kind rest => rfl

theorem echo_last_eq (t : Tracer) : t.echoLast = { t with echoed := t.echoLast.echoed } := by
  unfold echoLast
  split
  · rfl
  · rfl

theorem record_eq (t : Tracer) (event : Trace.Event) (enabled : t.enabled = true) :
    t.record event = { t with
      log := if t.accepts event then t.log.push t.step t.now event else t.log
      echoed := (t.record event).echoed } := by
  unfold record
  by_cases accepted : t.accepts event = true
  · rw [if_pos (by rw [enabled, accepted]; rfl), if_pos accepted]
    dsimp only
    split
    · rw [echo_last_eq]
    · rfl
  · rw [if_neg (by simp [accepted]), if_neg accepted]

theorem offered_record (t : Tracer) (event : Trace.Event) (enabled : t.enabled = true) :
    t.Offered [(t.step, event)] (t.record event) := by
  rw [record_eq t event enabled, accepts_eq_passes t t.step event]
  refine ⟨rfl, rfl, ?_⟩
  cases passed : Trace.passes t.kinds (t.step, event) with
  | true =>
      rw [List.filter_cons_of_pos passed]
      exact Trace.Log.gains_push t.step t.now event t.log
  | false =>
      rw [List.filter_cons_of_neg (by simp [passed])]
      exact Trace.Log.gains_nothing t.log

theorem offered_records (events : List Trace.Event) (t : Tracer) (enabled : t.enabled = true) :
    t.Offered (events.map (t.step, ·)) (events.foldl (fun t event => t.record event) t) := by
  induction events generalizing t with
  | nil => exact offered_nothing t
  | cons event rest ih =>
      have first := offered_record t event enabled
      have step : (t.record event).step = t.step := by rw [record_eq t event enabled]
      have later := ih (t.record event) (first.enabled.trans enabled)
      rw [step] at later
      exact offered_append _ _ _ _ _ first later

theorem offered_observe (t : Tracer) (r : Report) (depth : Nat) (enabled : t.enabled = true) :
    t.Offered ((eventsOf r depth).map (r.number, ·)) (t.observe r depth) := by
  obtain ⟨on, kinds, log⟩ := offered_records (eventsOf r depth) { t with step := r.number } enabled
  rw [observe, if_pos enabled]
  exact ⟨on, kinds, log⟩

end Tracer

namespace Session

-- What there is to tell of a step after so many others, under the number of that step.
def toldAt (s : Session) (i : Nat) : List (UInt64 × Trace.Event) :=
  match (s.machineAt i).step s.config.bounds with
  | .stepped report next => ((s.machineAt i).story report next).map (report.number, ·)
  | .halted _ | .faulted _ _ => []

def told (n : Nat) (s : Session) : List (UInt64 × Trace.Event) :=
  (List.range n).flatMap s.toldAt

-- So many steps, each after a look at the clock.
def stepsAt (clock : Nat → UInt64) : Nat → Session → Session
  | 0, s => s
  | n + 1, s => ((stepsAt clock n s).mapTracer fun t => { t with now := clock n }).step.2

theorem machine_steps_at (clock : Nat → UInt64) (n : Nat) (s : Session) :
    (stepsAt clock n s).machine = s.machineAt n ∧ (stepsAt clock n s).config = s.config := by
  induction n with
  | zero => exact ⟨rfl, rfl⟩
  | succ n ih =>
      obtain ⟨machine, config⟩ := ih
      rw [stepsAt, machine_step, config_step]
      dsimp only [mapTracer]
      rw [machine, config, machineAt, machineAt, Function.iterate_succ_apply']
      exact ⟨rfl, rfl⟩

theorem told_succ (n : Nat) (s : Session) : s.told (n + 1) = s.told n ++ s.toldAt n := by
  rw [told, told, List.range_succ, List.flatMap_append, List.flatMap_singleton]

theorem told_at_of_advances (s : Session) (i : Nat) (advances : (s.machineAt i).Advances s.config.bounds) :
    ∃ report, (s.machineAt i).step s.config.bounds = .stepped report (s.machineAt (i + 1)) ∧
      s.toldAt i = ((s.machineAt i).story report (s.machineAt (i + 1))).map (report.number, ·) := by
  obtain ⟨report, next, stepped⟩ := advances
  have after : s.machineAt (i + 1) = next := by
    rw [machineAt, Function.iterate_succ_apply', ← machineAt, Machine.attempt, stepped]
  rw [toldAt, stepped, after]
  exact ⟨report, rfl, rfl⟩

theorem tracer_of_stepped (s : Session) (report : Report) (next : Machine)
    (stepped : s.machine.step s.config.bounds = .stepped report next) (enabled : s.tracer.enabled = true) :
    s.step.2.tracer = s.tracer.observe report next.stack.size := by
  have running := Machine.running_of_advances _ _ ⟨report, next, stepped⟩
  rw [step, if_neg (by simp [running]), stepped]
  dsimp only
  rw [if_pos enabled]

theorem offered_steps_at (clock : Nat → UInt64) (n : Nat) (s : Session) (enabled : s.tracer.enabled = true)
    (advances : s.AdvancesFor n) : s.tracer.Offered (s.told n) (stepsAt clock n s).tracer := by
  induction n with
  | zero => exact Tracer.offered_nothing s.tracer
  | succ n ih =>
      have earlier := ih fun i before => advances i (by omega)
      obtain ⟨machine, config⟩ := machine_steps_at clock n s
      obtain ⟨report, stepped, story⟩ := told_at_of_advances s n (advances n (by omega))
      rw [told_succ, story, ← Machine.events_of_stepped _ _ _ report stepped, stepsAt]
      generalize stepsAt clock n s = middle at earlier machine config
      rw [← machine, ← config] at stepped
      have on : middle.tracer.enabled = true := earlier.enabled.trans enabled
      have observed := Tracer.offered_observe { middle.tracer with now := clock n } report
        (s.machineAt (n + 1)).stack.size on
      rw [tracer_of_stepped (middle.mapTracer fun t => { t with now := clock n }) report _ stepped on]
      exact Tracer.offered_append _ middle.tracer _ _ _ earlier
        ⟨observed.enabled, observed.kinds, observed.log⟩

theorem replay_told (n : Nat) (s : Session) (advances : s.AdvancesFor n) :
    let events := (s.told n).map Prod.snd
    (s.machineAt n).output = s.machine.output ++ Trace.written events ∧
      (s.machineAt n).grid = Trace.replay s.machine.grid events ∧ Trace.cellCount events = n := by
  induction n with
  | zero => exact ⟨String.append_empty.symm, rfl, rfl⟩
  | succ n ih =>
      obtain ⟨output, grid, cells⟩ := ih fun i before => advances i (by omega)
      obtain ⟨report, stepped, story⟩ := told_at_of_advances s n (advances n (by omega))
      have told := Machine.told_of_stepped _ _ _ report stepped
      obtain ⟨written, replay, one⟩ := Machine.read_story (s.machineAt n) report (s.machineAt (n + 1))
      have events : (s.toldAt n).map Prod.snd = (s.machineAt n).story report (s.machineAt (n + 1)) := by
        rw [story, List.map_map]
        exact List.map_id _
      rw [told_succ, List.map_append, events]
      refine ⟨?_, ?_, ?_⟩
      · rw [told.output, output, Trace.written_append, written, String.append_assoc]
      · rw [told.grid, grid, Trace.replay_append, replay]
      · rw [Trace.cell_count_append, cells, one]

theorem trace_is_faithful (s : Session) (clock : Nat → UInt64) (n : Nat) (enabled : s.tracer.enabled = true)
    (advances : s.AdvancesFor n) :
    let told := s.told n
    let kept := told.filter (Trace.passes s.tracer.kinds)
    let log := s.tracer.log
    let after := stepsAt clock n s
    (∀ i < n, ∃ report, (stepsAt clock i s).step.1 = .ok (some report) ∧
      (s.machineAt i).step s.config.bounds = .stepped report (s.machineAt (i + 1)) ∧
      report.number = (s.machineAt i).steps + 1 ∧
      s.toldAt i = ((s.machineAt i).story report (s.machineAt (i + 1))).map (report.number, ·)) ∧
    after.machine = s.machineAt n ∧
    after.tracer.log.nextId = log.nextId + kept.length ∧
    after.tracer.log.untimed =
      lastItems log.window.capacity (log.untimed ++ Trace.numbered log.nextId kept) ∧
    (s.tracer.kinds = [] → told.length ≤ log.window.capacity →
      let events := (after.tracer.log.newest told.length).map Prod.snd
      after.machine.output = s.machine.output ++ Trace.written events ∧
        after.machine.grid = Trace.replay s.machine.grid events ∧ Trace.cellCount events = n) ∧
    ∀ full : Tracer, full.enabled = true → full.kinds = [] → told.length ≤ full.log.window.capacity →
      kept.length ≤ log.window.capacity →
      after.tracer.log.newest kept.length =
        ((stepsAt clock n { s with tracer := full }).tracer.log.newest told.length).filter
          (Trace.passes s.tracer.kinds) := by
  intro told kept log after
  have machine : after.machine = s.machineAt n := (machine_steps_at clock n s).1
  have gains : log.Gains kept after.tracer.log := (offered_steps_at clock n s enabled advances).log
  refine ⟨?_, machine, gains.nextId, gains.records, ?_, ?_⟩
  · intro i inside
    obtain ⟨report, stepped, story⟩ := told_at_of_advances s i (advances i inside)
    obtain ⟨before, config⟩ := machine_steps_at clock i s
    refine ⟨report, ?_, stepped, (Machine.told_of_stepped _ _ _ report stepped).number, story⟩
    rw [step_answer, before, config, stepped]
    rfl
  · intro unfiltered room
    have all : kept = told := Trace.filter_passes_of_no_kinds s.tracer.kinds unfiltered told
    rw [all] at gains
    rw [Trace.Log.newest_of_gains _ _ _ gains room, machine]
    exact replay_told n s advances
  · intro full on unfiltered room enough
    have others : full.log.Gains (told.filter (Trace.passes full.kinds))
        (stepsAt clock n { s with tracer := full }).tracer.log :=
      (offered_steps_at clock n { s with tracer := full } on advances).log
    rw [Trace.filter_passes_of_no_kinds full.kinds unfiltered] at others
    rw [Trace.Log.newest_of_gains _ _ _ gains enough, Trace.Log.newest_of_gains _ _ _ others room]

-- A program that pushes a cell, stores it and prints, under a trace of two kinds that holds two records.
def stored : Session :=
  { start "\"a\"00p1.@" {} with
    tracer := { enabled := true, kinds := ["output", "cell-write"], log := .empty 2 } }

def unfiltered : Tracer :=
  { enabled := true, log := .empty 20 }

def ticks (n : Nat) : UInt64 :=
  UInt64.ofNat (1000 * n)

theorem trace_is_faithful_of_a_program_that_stores_and_prints :
    stored.AdvancesFor 9 ∧ (stepsAt ticks 9 stored).tracer.log.nextId = 2 ∧
      (stepsAt ticks 9 stored).tracer.log.untimed =
        [(0, 6, .cellWrite ⟨0, 0⟩ 'a'), (1, 8, .output "1")] ∧
      (stored.told 9).length = 12 ∧
      (stepsAt ticks 9 stored).tracer.log.newest 2 =
        ((stepsAt ticks 9 { stored with tracer := unfiltered }).tracer.log.newest 12).filter
          (Trace.passes ["output", "cell-write"]) ∧
      Trace.cellCount
        (((stepsAt ticks 9 { stored with tracer := unfiltered }).tracer.log.newest 12).map Prod.snd) = 9 := by
  have advances : stored.AdvancesFor 9 := by decide +kernel
  have length : (stored.told 9).length = 12 := by decide +kernel
  have two : ((stored.told 9).filter (Trace.passes stored.tracer.kinds)).length = 2 := by decide +kernel
  obtain ⟨_, _, made, records, _, deleted⟩ := trace_is_faithful stored ticks 9 rfl advances
  obtain ⟨_, _, _, _, read, _⟩ :=
    trace_is_faithful { stored with tracer := unfiltered } ticks 9 rfl advances
  have without := deleted unfiltered rfl rfl (Nat.le_trans (Nat.le_of_eq length) (by decide))
    (Nat.le_of_eq two)
  obtain ⟨_, _, cells⟩ := read rfl (Nat.le_trans (Nat.le_of_eq length) (by decide))
  rw [length, two] at without
  change Trace.cellCount (((stepsAt ticks 9 { stored with tracer := unfiltered }).tracer.log.newest
    (stored.told 9).length).map Prod.snd) = 9 at cells
  rw [length] at cells
  exact ⟨advances, made.trans (congrArg (0 + ·) two), records.trans (by decide +kernel), length, without,
    cells⟩

end Session

end Befunge
