import Befunge.Proofs.Machine.Bounds
import Befunge.Proofs.Session.Observation
import Befunge.Proofs.Session.Tracing

/-!
To reset a session is to start over. A session that was reset and one that is made anew with the same
program and settings answer every sequence of operations alike. Their traces record the same events of
the same steps, under numbers that differ by those of the records made before the reset.
-/
set_option autoImplicit false

namespace Befunge

namespace Machine

-- There is nothing on the stack yet, so only the first cell can be addressed, and the instruction that
-- does so is in it.
theorem not_fails_load (source : String) (config : Config) (bounds : Bounds) :
    ¬ (load source config).Fails bounds := by
  rw [fails_iff]
  rintro ⟨_, _, accessing, nowhere⟩
  by_cases first : 0 < (Grid.parse source).rowLength 0
  · have rows : 0 < (Grid.parse source).rowCount := by
      by_contra none
      rw [Grid.row_length_of_missing _ 0 (by omega)] at first
      cases first
    exact nowhere ⟨Int.le_refl 0, Int.ofNat_lt.2 rows, Int.le_refl 0, Int.ofNat_lt.2 first⟩
  · have void : (load source config).cell = ' ' := by
      change ((Grid.parse source).get? 0 0).getD ' ' = ' '
      rw [(Grid.get_eq_none_iff _ 0 0).2 (by omega)]
      rfl
    have idle : (load source config).instruction? = some .nop := by
      rw [instruction?, void]
      rfl
    rw [idle] at accessing
    simp at accessing

end Machine

namespace Tracer

-- A tracer with the settings of this one, as it is made.
def anew (now : UInt64) (t : Tracer) : Tracer :=
  { enabled := t.enabled, json := t.json, echo := t.echo, kinds := t.kinds
    log := .empty t.log.window.capacity, now }

-- The tracer after a step with this outcome.
def noting (t : Tracer) : Machine.Outcome → Tracer
  | .halted _ => t
  | .stepped report after => t.observe report after.stack.size
  | .faulted error _ => t.fault error.message

structure Ahead (shift : Nat) (t u : Tracer) : Prop where
  enabled : t.enabled = u.enabled
  kinds : t.kinds = u.kinds
  log : t.log.Ahead shift u.log

-- What is recorded next belongs to the same step on both sides.
structure Abreast (shift : Nat) (t u : Tracer) : Prop extends Ahead shift t u where
  step : t.enabled = true → t.step = u.step

variable (shift : Nat) (t u : Tracer)

theorem ahead_of_offered (t' u' : Tracer) (told : List (UInt64 × Trace.Event)) (ahead : t.Ahead shift u)
    (left : t.Offered told t') (right : u.Offered told u') : t'.Ahead shift u' where
  enabled := by rw [left.enabled, right.enabled, ahead.enabled]
  kinds := by rw [left.kinds, right.kinds, ahead.kinds]
  log := by
    have gains := left.log
    rw [ahead.kinds] at gains
    exact Trace.Log.ahead_of_gains shift _ _ _ _ _ ahead.log gains right.log

theorem record_of_disabled (event : Trace.Event) (disabled : t.enabled = false) : t.record event = t := by
  simp [record, disabled]

theorem step_record (event : Trace.Event) : (t.record event).step = t.step := by
  cases enabled : t.enabled with
  | true => rw [record_eq t event enabled]
  | false => rw [record_of_disabled t event enabled]

theorem step_observe (r : Report) (depth : Nat) (enabled : t.enabled = true) :
    (t.observe r depth).step = r.number := by
  have kept : ∀ (events : List Trace.Event) (u : Tracer),
      (events.foldl (fun u event => u.record event) u).step = u.step := by
    intro events
    induction events with
    | nil => exact fun _ => rfl
    | cons event rest ih => exact fun u => (ih _).trans (step_record u event)
  rw [observe, if_pos enabled, kept]

theorem abreast_record (event : Trace.Event) (abreast : t.Abreast shift u) :
    (t.record event).Abreast shift (u.record event) := by
  cases enabled : t.enabled with
  | false =>
      rw [record_of_disabled t event enabled, record_of_disabled u event (abreast.enabled ▸ enabled)]
      exact abreast
  | true =>
      have left := offered_record t event enabled
      have right := offered_record u event (abreast.enabled ▸ enabled)
      rw [← abreast.step enabled] at right
      exact
        { ahead_of_offered shift t u _ _ _ abreast.toAhead left right with
          step := fun _ => by rw [step_record, step_record, abreast.step enabled] }

-- The report tells the step, whichever it was before.
theorem abreast_observe (r : Report) (depth : Nat) (ahead : t.Ahead shift u) :
    (t.observe r depth).Abreast shift (u.observe r depth) := by
  cases enabled : t.enabled with
  | false =>
      have other : u.enabled = false := ahead.enabled ▸ enabled
      rw [observe, observe, if_neg (by simp [enabled]), if_neg (by simp [other])]
      exact { ahead with step := fun on => by rw [enabled] at on; cases on }
  | true =>
      have other : u.enabled = true := ahead.enabled ▸ enabled
      exact
        { ahead_of_offered shift t u _ _ _ ahead (offered_observe t r depth enabled)
            (offered_observe u r depth other) with
          step := fun _ => by rw [step_observe t r depth enabled, step_observe u r depth other] }

end Tracer

namespace Session

theorem tracer_step (s : Session) :
    s.step.2.tracer = s.tracer.noting (s.machine.step s.config.bounds) := by
  cases halted : s.machine.halted with
  | true =>
      have outcome : s.machine.step s.config.bounds = .halted s.machine := by simp [Machine.step, halted]
      rw [step_of_halted s halted, outcome]
      rfl
  | false =>
      have running : ¬ s.machine.halted = true := by simp [halted]
      unfold step
      rw [if_neg running]
      cases s.machine.step s.config.bounds with
      | halted after => rfl
      | stepped report after =>
          cases enabled : s.tracer.enabled with
          | true => simp [Tracer.noting]
          | false => simp [Tracer.noting, Tracer.observe, enabled]
      | faulted error after => rfl

-- At the start of the program, with no step taken.
structure Unmoved (s : Session) : Prop where
  machine : s.machine = Machine.load s.source s.config
  history : s.history.newestFirst = []

-- Before the first step the tracers may belong to different steps: that step cannot fail, so what is
-- recorded of it is told by its report.
structure Restarted (shift : Nat) (s t : Session) : Prop where
  agree : Agree True True s t
  tracer : s.tracer.Ahead shift t.tracer
  step : s.Unmoved ∨ (s.tracer.enabled = true → s.tracer.step = t.tracer.step)

section Restarted

variable (shift : Nat) (s t : Session)

theorem restarted_of_abreast (agree : Agree True True s t) (abreast : s.tracer.Abreast shift t.tracer) :
    Restarted shift s t :=
  ⟨agree, abreast.toAhead, .inr abreast.step⟩

theorem abreast_step (restarted : Restarted shift s t) :
    s.step.2.tracer.Abreast shift t.step.2.tracer := by
  obtain ⟨agree, ahead, step⟩ := restarted
  have abreast : ¬ s.Unmoved → s.tracer.Abreast shift t.tracer := fun moved =>
    { ahead with step := step.resolve_left moved }
  rw [tracer_step, tracer_step, ← agree.machine, ← agree.config]
  cases outcome : s.machine.step s.config.bounds with
  | halted after =>
      apply abreast
      intro unmoved
      have halted := Machine.halted_of_step _ _ after outcome
      rw [unmoved.machine] at halted
      cases halted
  | stepped report after => exact Tracer.abreast_observe shift _ _ report _ ahead
  | faulted error after =>
      refine Tracer.abreast_record shift _ _ _ (abreast ?_)
      intro unmoved
      rw [unmoved.machine] at outcome
      exact Machine.not_fails_load _ _ _ ⟨error, after, outcome⟩

theorem lockstep_restarted : Lockstep (Restarted shift) := by
  refine lockstep_of_reads (fun _ _ restarted => restarted.agree.machine)
    (fun _ _ restarted => restarted.agree.name)
    (fun _ _ restarted => congrArg Config.bounds restarted.agree.config)
    (fun _ _ restarted => restarted.agree.limit) ?_
  intro s t restarted _ _
  exact restarted_of_abreast shift _ _ (lockstep_agree.stepped s t restarted.agree)
    (abreast_step shift s t restarted)

theorem restarted_back (count : Nat) (restarted : Restarted shift s t) :
    (s.back count).1 = (t.back count).1 ∧ Restarted shift (s.back count).2 (t.back count).2 := by
  obtain ⟨answer, agree⟩ := agree_back s t count trivial restarted.agree
  refine ⟨answer, agree, restarted.tracer, restarted.step.imp_left ?_⟩
  intro unmoved
  refine ⟨?_, ?_⟩
  · rw [back_machine, unmoved.history, List.take_nil]
    exact unmoved.machine
  · rw [back_history, Window.newest_first_drop_newest, unmoved.history, List.drop_nil]

theorem restarted_move (m : Move) (restarted : Restarted shift s t) :
    (s.move m).1 = (t.move m).1 ∧ Restarted shift (s.move m).2 (t.move m).2 := by
  refine move_lockstep (lockstep_restarted shift) s t m restarted
    (fun _ _ _ _ restarted => restarted.agree.breakpoints trivial) ?_
    (fun count _ => restarted_back shift s t count restarted)
  intro s t p restarted
  exact restarted_of_abreast shift _ _ { lockstep_agree.stepped s t restarted.agree with }
    (Tracer.abreast_record shift _ _ _ (abreast_step shift s t restarted))

end Restarted

namespace Operation

-- The operations that leave program, seed and tracer to the session.
def staysOn : Operation → Bool
  | .move _ | .reset | .addBreakpoint _ | .removeBreakpoint _ | .clearBreakpoints | .setLimit _ => true
  | .reseed _ | .restore _ | .apply _ | .setProgram _ _ | .mapTracer _ => false

end Operation

theorem restarted_perform (shift : Nat) (s t : Session) (operation : Operation)
    (stays : operation.staysOn = true) (restarted : Restarted shift s t) :
    (s.perform operation).1 = (t.perform operation).1 ∧
      Restarted shift (s.perform operation).2 (t.perform operation).2 := by
  obtain ⟨answer, agree⟩ := agree_perform s t operation restarted.agree (fun _ => trivial)
    (fun _ => trivial)
  cases operation with
  | move m => exact restarted_move shift s t m restarted
  | reset =>
      obtain ⟨enabled, kinds, capacity, nextId, _⟩ := restarted.tracer
      exact ⟨answer, agree, ⟨enabled, kinds, capacity, nextId, rfl⟩, .inl ⟨rfl, rfl⟩⟩
  | addBreakpoint | removeBreakpoint | clearBreakpoints | setLimit =>
      exact ⟨answer, agree, restarted.tracer, restarted.step.imp_left fun unmoved => { unmoved with }⟩
  | reseed | restore | apply | setProgram | mapTracer => cases stays

theorem restarted_performs (shift : Nat) (operations : List Operation) (s t : Session)
    (stays : ∀ operation ∈ operations, operation.staysOn = true) (restarted : Restarted shift s t) :
    (performs operations s).1 = (performs operations t).1 ∧
      Restarted shift (performs operations s).2 (performs operations t).2 := by
  induction operations generalizing s t with
  | nil => exact ⟨rfl, restarted⟩
  | cons operation rest ih =>
      rw [List.forall_mem_cons] at stays
      obtain ⟨answer, after⟩ := restarted_perform shift s t operation stays.1 restarted
      obtain ⟨answers, last⟩ := ih _ _ stays.2 after
      exact ⟨congrArg₂ List.cons answer answers, last⟩

-- A session of the same program and settings, as it is made.
def afresh (now : UInt64) (s : Session) : Session :=
  { construct s.source s.config s.name (s.tracer.anew now) s.history.capacity s.limit with
    breakpoints := s.breakpoints }

theorem restarted_reset (s : Session) (now : UInt64) :
    Restarted s.tracer.log.nextId s.reset (s.afresh now) where
  agree := ⟨rfl, rfl, rfl, rfl, rfl, fun _ => rfl, fun _ => rfl⟩
  tracer := ⟨rfl, rfl, rfl, rfl, rfl⟩
  step := .inl ⟨rfl, rfl⟩

-- Whatever was done with the session before, its reset forgets: what follows is answered, done and
-- recorded as in a session that is made anew.
theorem reset_is_a_fresh_start (s : Session) (now : UInt64) (operations : List Operation)
    (stays : ∀ operation ∈ operations, operation.staysOn = true) :
    let again := performs operations s.reset
    let fresh := performs operations (s.afresh now)
    again.1 = fresh.1 ∧ again.2 = { fresh.2 with tracer := again.2.tracer } ∧
      again.2.tracer.log.nextId = s.tracer.log.nextId + fresh.2.tracer.log.nextId ∧
      again.2.tracer.log.untimed = Trace.renumbered s.tracer.log.nextId fresh.2.tracer.log.untimed := by
  obtain ⟨answers, agree, tracer, _⟩ := restarted_performs s.tracer.log.nextId operations s.reset
    (s.afresh now) stays (restarted_reset s now)
  refine ⟨answers, ?_, tracer.log.nextId, tracer.log.records⟩
  dsimp only
  rw [← agree.machine, ← agree.source, ← agree.name, ← agree.config, ← agree.limit,
    ← agree.history trivial, ← agree.breakpoints trivial]

-- A session that has faulted in one program, has loaded another one and stands in a string of it.
def worn : Session :=
  let other := (start "\"?\"?.@" { seed := 3 }).step.2
  (performs
    [.move (.steps 9), .apply (Image.capture { other with name := some "other" }), .move .step,
      .addBreakpoint ⟨3, 0⟩, .move (.back 4)]
    (construct "?99g@" { seed := 5, bounds := .strict } none { enabled := true, log := .empty 3 } 2 none)).2

def sequel : List Operation :=
  [.move (.proceed 20), .move (.back 1), .setLimit (some 5), .move (.run 20), .reset, .move (.steps 3)]

theorem reset_is_a_fresh_start_behind_a_fault_and_a_load :
    (∀ operation ∈ sequel, operation.staysOn = true) ∧ worn.machine.stringMode = true ∧
      worn.tracer.log.nextId = 5 ∧
      (performs sequel worn.reset).1 = (performs sequel (worn.afresh 7)).1 ∧
      (performs sequel (worn.afresh 7)).2.tracer.log.untimed =
        [(8, 1, .step ⟨0, 0⟩ '"' .stringMode .right 0), (9, 2, .stringPush ⟨1, 0⟩ 63),
          (10, 3, .step ⟨2, 0⟩ '"' .stringMode .right 1)] ∧
      (performs sequel worn.reset).2.tracer.log.untimed =
        [(13, 1, .step ⟨0, 0⟩ '"' .stringMode .right 0), (14, 2, .stringPush ⟨1, 0⟩ 63),
          (15, 3, .step ⟨2, 0⟩ '"' .stringMode .right 1)] := by
  have stays : ∀ operation ∈ sequel, operation.staysOn = true := by decide +kernel
  have before : worn.tracer.log.nextId = 5 := by decide +kernel
  have told : (performs sequel (worn.afresh 7)).2.tracer.log.untimed =
      [(8, 1, .step ⟨0, 0⟩ '"' .stringMode .right 0), (9, 2, .stringPush ⟨1, 0⟩ 63),
        (10, 3, .step ⟨2, 0⟩ '"' .stringMode .right 1)] := by decide +kernel
  obtain ⟨answers, _, _, records⟩ := reset_is_a_fresh_start worn 7 sequel stays
  rw [before, told] at records
  exact ⟨stays, by decide +kernel, before, answers, told, records⟩

end Session

end Befunge
