import Befunge.Proofs.Session.Restart

/-!
Which step a trace record belongs to. What is told of a step that succeeds, and of a pause behind it, is
filed under the number of steps that the machine has then taken. A fault is filed under the step that was
told of last, and this is the same number as long as nothing but steps and restarts moves the machine:
going back, restoring and loading do not tell the tracer where they lead.
-/
set_option autoImplicit false

namespace Befunge

namespace Trace

def Event.isFault : Event → Bool
  | .fault _ => true
  | _ => false

-- An event that was recorded, the step that it was filed under, and the number of steps that the machine
-- had taken at that moment.
structure Note where
  taken : UInt64
  step : UInt64
  event : Event
deriving DecidableEq, Repr

namespace Note

def all (taken : UInt64) (told : List (UInt64 × Event)) : List Note :=
  told.map fun entry => ⟨taken, entry.1, entry.2⟩

-- In a strict account faults are no exception.
def Right (strict : Prop) (note : Note) : Prop :=
  strict ∨ note.event.isFault = false → note.step = note.taken

end Note

theorem Log.mem_of_gains (before after : Log) (told : List (UInt64 × Event))
    (gains : before.Gains told after) (entry : Nat × UInt64 × Event) (member : entry ∈ after.untimed) :
    entry ∈ before.untimed ∨ entry.2 ∈ told := by
  rw [gains.records, lastItems] at member
  rcases List.mem_append.1 (List.mem_of_mem_drop member) with earlier | now
  · exact .inl earlier
  · have place := List.mem_map_of_mem (f := Prod.snd) now
    rw [map_snd_numbered] at place
    exact .inr place

end Trace

namespace Tracer

-- What a tracer is told of a step with this outcome.
def tells (t : Tracer) : Machine.Outcome → List (UInt64 × Trace.Event)
  | .halted _ => []
  | .stepped report after => (eventsOf report after.stack.size).map (report.number, ·)
  | .faulted error _ => [(t.step, .fault error.message)]

theorem offered_noting (t : Tracer) (outcome : Machine.Outcome) (enabled : t.enabled = true) :
    t.Offered (t.tells outcome) (t.noting outcome) := by
  cases outcome with
  | halted after => exact offered_nothing t
  | stepped report after => exact offered_observe t report after.stack.size enabled
  | faulted error after => exact offered_record t (.fault error.message) enabled

end Tracer

namespace Session

open Trace

-- What is recorded of the next step, and of a pause.
def stepNotes (s : Session) : List Note :=
  Note.all s.step.2.machine.steps
    ((s.tracer.tells (s.machine.step s.config.bounds)).filter (passes s.tracer.kinds))

def pauseNotes (p : Position) (s : Session) : List Note :=
  Note.all s.machine.steps ([(s.tracer.step, .breakpointHit p)].filter (passes s.tracer.kinds))

namespace Operation

-- The operations that record nothing.
def isQuiet : Operation → Bool
  | .move (.back _) | .reset | .reseed _ | .restore _ | .apply _ | .setProgram _ _ | .addBreakpoint _
  | .removeBreakpoint _ | .clearBreakpoints | .setLimit _ => true
  | .move _ | .mapTracer _ => false

def leavesTracer : Operation → Bool
  | .mapTracer _ => false
  | _ => true

-- The operations that move the machine to where no step has led.
def jumps : Operation → Bool
  | .move (.back _) | .restore _ | .apply _ => true
  | _ => false

end Operation

-- From `s` on, these were recorded, one moment after the other: a step, a pause, or a quiet operation.
inductive Noted (s : Session) : List Note → Session → Prop where
  | start : Noted s [] s
  | step (notes : List Note) (t : Session) (before : Noted s notes t) :
      Noted s (notes ++ t.stepNotes) t.step.2
  | pause (notes : List Note) (t : Session) (p : Position) (before : Noted s notes t) :
      Noted s (notes ++ t.pauseNotes p) (t.mapTracer (·.breakpointHit p))
  | aside (notes : List Note) (t : Session) (operation : Operation) (before : Noted s notes t)
      (quiet : operation.isQuiet = true) : Noted s notes (t.perform operation).2

theorem enabled_step (s : Session) (enabled : s.tracer.enabled = true) :
    s.step.2.tracer.enabled = true := by
  rw [tracer_step]
  exact (Tracer.offered_noting s.tracer _ enabled).enabled.trans enabled

theorem enabled_pause (s : Session) (p : Position) (enabled : s.tracer.enabled = true) :
    (s.mapTracer (·.breakpointHit p)).tracer.enabled = true :=
  (Tracer.offered_record s.tracer (.breakpointHit p) enabled).enabled.trans enabled

theorem tracer_of_quiet (s : Session) (operation : Operation) (quiet : operation.isQuiet = true) :
    (s.perform operation).2.tracer = s.tracer ∨
      (s.perform operation).2.tracer = s.tracer.clear := by
  cases operation with
  | move m =>
      cases m with
      | back count => exact .inl rfl
      | step | steps | run | proceed => cases quiet
  | reset => exact .inr rfl
  | reseed | restore | apply | setProgram | addBreakpoint | removeBreakpoint | clearBreakpoints
  | setLimit => exact .inl rfl
  | mapTracer => cases quiet

-- What is recorded next belongs to the step that the machine has come to. At the start of a program the
-- tracer may belong to another one, for what comes next cannot be a fault.
def InStep (s : Session) : Prop :=
  s.tracer.step = s.machine.steps ∨ ∃ source config, s.machine = Machine.load source config

section Step

variable (s : Session) (strict : Prop)

theorem in_step_of_advance (enabled : s.tracer.enabled = true) (report : Report)
    (advanced : s.step.1 = .ok (some report)) : s.step.2.tracer.step = s.step.2.machine.steps := by
  obtain ⟨next, stepped⟩ := stepped_of_answer s report advanced
  have told := Machine.told_of_stepped _ _ _ report stepped
  rw [tracer_step, machine_step, Machine.attempt, stepped]
  exact (Tracer.step_observe _ report _ enabled).trans (told.number.trans told.steps.symm)

-- A step that fails leaves the count as it is, and it is not the first one of a program.
theorem in_step_of_fault (error : Error) (after : Machine)
    (faulted : s.machine.step s.config.bounds = .faulted error after) (inStep : s.InStep) :
    s.tracer.step = after.steps := by
  have same : after.steps = s.machine.steps := by
    rw [(Machine.step_eq_faulted _ _ _ error faulted).2, Machine.without_top_eq]
  rcases inStep with told | ⟨source, config, fresh⟩
  · exact told.trans same.symm
  · rw [fresh] at faulted
    exact absurd ⟨error, after, faulted⟩ (Machine.not_fails_load source config _)

theorem in_step_step (enabled : s.tracer.enabled = true) (inStep : s.InStep) : s.step.2.InStep := by
  cases outcome : s.machine.step s.config.bounds with
  | halted after =>
      rw [step_of_halted s (Machine.halted_of_step _ _ after outcome)]
      exact inStep
  | stepped report after =>
      refine .inl (in_step_of_advance s enabled report ?_)
      rw [step_answer, outcome]
      rfl
  | faulted error after =>
      refine .inl ?_
      rw [tracer_step, machine_step, Machine.attempt, outcome]
      exact (Tracer.step_record s.tracer _).trans (in_step_of_fault s error after outcome inStep)

theorem right_of_step (inStep : strict → s.InStep) (note : Note) (member : note ∈ s.stepNotes) :
    note.Right strict := by
  obtain ⟨⟨step, event⟩, kept, rfl⟩ := List.mem_map.1 member
  have told := (List.mem_filter.1 kept).1
  intro counts
  dsimp only at counts ⊢
  rw [machine_step, Machine.attempt]
  cases outcome : s.machine.step s.config.bounds with
  | halted after => rw [outcome] at told; cases told
  | stepped report after =>
      rw [outcome] at told
      obtain ⟨_, _, same⟩ := List.mem_map.1 told
      cases same
      have number := Machine.told_of_stepped _ _ _ report outcome
      exact number.number.trans number.steps.symm
  | faulted error after =>
      rw [outcome] at told
      cases List.mem_singleton.1 told
      rcases counts with always | no
      · exact in_step_of_fault s error after outcome (inStep always)
      · cases no

theorem right_of_pause (p : Position) (come : s.tracer.step = s.machine.steps) (note : Note)
    (member : note ∈ s.pauseNotes p) : note.Right strict := by
  obtain ⟨entry, kept, rfl⟩ := List.mem_map.1 member
  cases List.mem_singleton.1 (List.mem_filter.1 kept).1
  exact fun _ => come

end Step

-- From `s` on, all was filed as it should be, and will be.
structure Accounted (strict : Prop) (s t : Session) : Prop where
  enabled : t.tracer.enabled = true
  inStep : strict → t.InStep
  account : ∃ notes, Noted s notes t ∧ ∀ note ∈ notes, note.Right strict

section Accounted

variable (strict : Prop) (s t : Session) (accounted : Accounted strict s t)

include accounted

theorem accounted_step : Accounted strict s t.step.2 := by
  obtain ⟨enabled, inStep, notes, noted, right⟩ := accounted
  refine ⟨enabled_step t enabled, fun always => in_step_step t enabled (inStep always), _,
    .step notes t noted, ?_⟩
  rw [List.forall_mem_append]
  exact ⟨right, right_of_step t strict inStep⟩

theorem accounted_pause (p : Position) (come : t.tracer.step = t.machine.steps) :
    Accounted strict s (t.mapTracer (·.breakpointHit p)) := by
  obtain ⟨enabled, inStep, notes, noted, right⟩ := accounted
  refine ⟨enabled_pause t p enabled, fun _ => .inl ?_, _, .pause notes t p noted, ?_⟩
  · exact (Tracer.step_record t.tracer _).trans come
  · rw [List.forall_mem_append]
    exact ⟨right, right_of_pause t strict p come⟩

theorem accounted_quiet (operation : Operation) (quiet : operation.isQuiet = true)
    (keeps : strict → operation.jumps = false) : Accounted strict s (t.perform operation).2 := by
  obtain ⟨enabled, inStep, notes, noted, right⟩ := accounted
  refine ⟨?_, ?_, notes, .aside notes t operation noted quiet, right⟩
  · rcases tracer_of_quiet t operation quiet with same | cleared
    · rw [same, enabled]
    · rw [cleared]
      exact enabled
  · intro always
    have stays := keeps always
    cases operation with
    | move m =>
        cases m with
        | back => cases stays
        | step | steps | run | proceed => cases quiet
    | restore | apply => cases stays
    | reset => exact .inr ⟨t.source, t.config, rfl⟩
    | reseed | setProgram | addBreakpoint | removeBreakpoint | clearBreakpoints | setLimit =>
        exact inStep always
    | mapTracer => cases quiet

theorem accounted_perform (operation : Operation) (leaves : operation.leavesTracer = true)
    (keeps : strict → operation.jumps = false) : Accounted strict s (t.perform operation).2 := by
  have stepped := accounted_step strict s
  cases operation with
  | move m =>
      cases m with
      | step => exact stepped t accounted
      | steps count => exact steps_keeps stepped count t accounted
      | run fuel => exact run_keeps stepped fuel t accounted
      | proceed fuel =>
          exact proceed_from_keeps_arrived (Q := fun t => t.tracer.step = t.machine.steps) stepped
            (fun t report before advanced => in_step_of_advance t before.enabled report advanced)
            (fun t p before come => accounted_pause strict s t before p come) false fuel t accounted
            (fun moved => nomatch moved)
      | back count => exact accounted_quiet strict s t accounted (.move (.back count)) rfl keeps
  | mapTracer => cases leaves
  | reset | reseed | restore | apply | setProgram | addBreakpoint | removeBreakpoint
  | clearBreakpoints | setLimit => exact accounted_quiet strict s t accounted _ rfl keeps

theorem accounted_performs (operations : List Operation)
    (leave : ∀ operation ∈ operations, operation.leavesTracer = true)
    (keep : strict → ∀ operation ∈ operations, operation.jumps = false) :
    Accounted strict s (performs operations t).2 := by
  induction operations generalizing t with
  | nil => exact accounted
  | cons operation rest ih =>
      rw [List.forall_mem_cons] at leave
      refine ih _ (accounted_perform strict s t accounted operation leave.1 ?_) leave.2 ?_
      · exact fun always => keep always operation List.mem_cons_self
      · exact fun always other member => keep always other (List.mem_cons_of_mem operation member)

end Accounted

theorem noted_of_offered (s t : Session) (told : List (UInt64 × Event)) (taken : UInt64)
    (notes : List Note) (offered : s.tracer.Offered told t.tracer) (entry : Nat × UInt64 × Event)
    (member : entry ∈ t.tracer.log.untimed) :
    entry ∈ s.tracer.log.untimed ∨ ∃ note ∈ notes ++ Note.all taken (told.filter (passes s.tracer.kinds)),
      (note.step, note.event) = entry.2 := by
  rcases Log.mem_of_gains _ _ _ offered.log entry member with earlier | now
  · exact .inl earlier
  · exact .inr ⟨⟨taken, entry.2.1, entry.2.2⟩,
      List.mem_append_right notes (List.mem_map.2 ⟨entry.2, now, rfl⟩), rfl⟩

-- The account is complete: whatever the log holds in the end was there before, or was noted.
theorem records_of_noted (s t : Session) (notes : List Note) (enabled : s.tracer.enabled = true)
    (noted : Noted s notes t) : t.tracer.enabled = true ∧ ∀ entry ∈ t.tracer.log.untimed,
      entry ∈ s.tracer.log.untimed ∨ ∃ note ∈ notes, (note.step, note.event) = entry.2 := by
  have grown : ∀ (notes later : List Note) (entry : Nat × UInt64 × Event),
      (entry ∈ s.tracer.log.untimed ∨ ∃ note ∈ notes, (note.step, note.event) = entry.2) →
      entry ∈ s.tracer.log.untimed ∨ ∃ note ∈ notes ++ later, (note.step, note.event) = entry.2 :=
    fun notes later entry found => found.imp_right fun ⟨note, member, same⟩ =>
      ⟨note, List.mem_append_left later member, same⟩
  induction noted with
  | start => exact ⟨enabled, fun _ member => .inl member⟩
  | step notes t _ ih =>
      obtain ⟨on, earlier⟩ := ih
      have offered := Tracer.offered_noting t.tracer (t.machine.step t.config.bounds) on
      rw [← tracer_step] at offered
      refine ⟨enabled_step t on, fun entry member => ?_⟩
      rcases noted_of_offered t t.step.2 _ t.step.2.machine.steps notes offered entry member with old | now
      · exact grown notes t.stepNotes entry (earlier entry old)
      · exact .inr now
  | pause notes t p _ ih =>
      obtain ⟨on, earlier⟩ := ih
      have offered := Tracer.offered_record t.tracer (.breakpointHit p) on
      refine ⟨enabled_pause t p on, fun entry member => ?_⟩
      rcases noted_of_offered t (t.mapTracer (·.breakpointHit p)) _ t.machine.steps notes offered entry member
        with old | now
      · exact grown notes (t.pauseNotes p) entry (earlier entry old)
      · exact .inr now
  | aside notes t operation _ quiet ih =>
      obtain ⟨on, earlier⟩ := ih
      rcases tracer_of_quiet t operation quiet with same | cleared
      · rw [same]
        exact ⟨on, earlier⟩
      · rw [cleared]
        exact ⟨on, fun entry member => nomatch member⟩

theorem records_belong_to_their_step (s : Session) (operations : List Operation)
    (enabled : s.tracer.enabled = true)
    (leave : ∀ operation ∈ operations, operation.leavesTracer = true) :
    let after := (performs operations s).2
    ∃ notes, Noted s notes after ∧
      (∀ note ∈ notes, note.event.isFault = false → note.step = note.taken) ∧
      (s.InStep → (∀ operation ∈ operations, operation.jumps = false) →
        ∀ note ∈ notes, note.step = note.taken) ∧
      (∀ step, ∀ record ∈ after.tracer.log.ofStep step,
        record.untimed ∈ s.tracer.log.untimed ∨
          ∃ note ∈ notes, note.step = step ∧ note.event = record.event) ∧
      ∀ t : Session, t.tracer.enabled = true → ∀ report, t.step.1 = .ok (some report) → t.step.2.InStep := by
  intro after
  let strict := s.InStep ∧ ∀ operation ∈ operations, operation.jumps = false
  obtain ⟨_, _, notes, noted, right⟩ :=
    accounted_performs strict s s ⟨enabled, And.left, [], .start, by simp⟩ operations leave And.right
  refine ⟨notes, noted, ?_, ?_, ?_, ?_⟩
  · exact fun note member plain => right note member (.inr plain)
  · exact fun inStep stays note member => right note member (.inl ⟨inStep, stays⟩)
  · intro step record member
    obtain ⟨held, ofStep⟩ := List.mem_filter.1 member
    have entry : record.untimed ∈ after.tracer.log.untimed := List.mem_map_of_mem held
    refine ((records_of_noted s after notes enabled noted).2 _ entry).imp_right ?_
    rintro ⟨note, among, same⟩
    obtain ⟨sameStep, sameEvent⟩ := Prod.mk.inj same
    exact ⟨note, among, sameStep.trans (beq_iff_eq.1 ofStep), sameEvent⟩
  · exact fun t on report advanced => .inl (in_step_of_advance t on report advanced)

-- Its second step reads where there is no cell, its third one reads the first cell.
def reader : Session :=
  construct "9g@" { bounds := .strict } none { enabled := true } 1000 none

def course : List Operation :=
  [.move (.steps 3), .reset, .addBreakpoint ⟨1, 0⟩, .move (.proceed 9), .move (.run 9)]

theorem records_belong_to_their_step_of_a_fault_behind_a_reset :
    reader.tracer.enabled = true ∧ (∀ operation ∈ course, operation.leavesTracer = true) ∧ reader.InStep ∧
      (∀ operation ∈ course, operation.jumps = false) ∧
      ∃ notes, Noted reader notes (performs course reader).2 ∧ (∀ note ∈ notes, note.step = note.taken) ∧
        (∃ note ∈ notes, note.taken = 1 ∧ note.event = .breakpointHit ⟨1, 0⟩) ∧
        ∃ note ∈ notes, note.taken = 1 ∧ note.event.isFault = true := by
  have leave : ∀ operation ∈ course, operation.leavesTracer = true := by decide
  have stay : ∀ operation ∈ course, operation.jumps = false := by decide
  have inStep : reader.InStep := .inl rfl
  obtain ⟨notes, noted, _, right, held, _⟩ := records_belong_to_their_step reader course rfl leave
  have exact := right inStep stay
  have fresh : ∀ entry, entry ∉ reader.tracer.log.untimed := fun _ => List.not_mem_nil
  have pause : ∃ record ∈ (performs course reader).2.tracer.log.ofStep 1,
      record.event = .breakpointHit ⟨1, 0⟩ := by decide +kernel
  have fault : ∃ record ∈ (performs course reader).2.tracer.log.ofStep 1,
      record.event.isFault = true := by decide +kernel
  refine ⟨rfl, leave, inStep, stay, notes, noted, exact, ?_, ?_⟩
  · obtain ⟨record, member, event⟩ := pause
    obtain ⟨note, among, step, same⟩ := (held 1 record member).resolve_left (fresh _)
    exact ⟨note, among, (exact note among).symm.trans step, same.trans event⟩
  · obtain ⟨record, member, event⟩ := fault
    obtain ⟨note, among, step, same⟩ := (held 1 record member).resolve_left (fresh _)
    exact ⟨note, among, (exact note among).symm.trans step, by rw [same, event]⟩

-- The step that failed is taken again once the one behind it was undone. The machine has taken one step,
-- and the fault is filed under the second.
theorem fault_behind_going_back_is_filed_under_a_later_step :
    let again := (performs [.move .step, .move .step, .move .step, .move (.back 2), .move .step] reader).2
    again.tracer.enabled = true ∧ again.machine.steps = 1 ∧
      (again.tracer.log.last?.map fun record => (record.step, record.event)) =
        some (2, .fault "grid access out of bounds: (0, 9)") ∧
      (again.tracer.log.ofStep 1).length = 2 ∧ (again.tracer.log.ofStep 2).length = 2 := by
  decide +kernel

end Session

end Befunge
