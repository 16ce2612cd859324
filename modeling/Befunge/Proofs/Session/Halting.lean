import Befunge.Proofs.Image.RoundTrip
import Befunge.Proofs.Machine.Bounds
import Befunge.Proofs.Session.TimeTravel
import Befunge.Proofs.Trace.Story

/-!
A program halts at `@` and nowhere else, and there it stays. The machine that has halted still stands on
the cell, and no step, no run and no loading of a saved session brings about a halt of another kind.
-/
set_option autoImplicit false

namespace Befunge

namespace Machine

-- The next step executes the end of the program.
def AtEnd (m : Machine) : Prop :=
  m.stringMode = false ∧ m.cell = '@'

instance (m : Machine) : Decidable m.AtEnd :=
  inferInstanceAs (Decidable (_ ∧ _))

def Settled (m : Machine) : Prop :=
  m.halted = true → m.AtEnd

theorem instruction_eq_halt_iff (m : Machine) : m.instruction? = some .halt ↔ m.AtEnd :=
  instruction_eq_some_iff m .halt (by decide) (by decide)

-- The halting step counts, and does not move.
theorem step_at_end (bounds : Bounds) (m : Machine) (running : m.halted = false) (atEnd : m.AtEnd) :
    ∃ report, report.action = .execute .halt ∧
      m.step bounds = .stepped report { m with halted := true, steps := m.steps + 1 } := by
  rw [step_of_running bounds m running, (instruction_eq_halt_iff m).2 atEnd]
  exact ⟨_, rfl, rfl⟩

theorem halts_iff (bounds : Bounds) (m : Machine) (running : m.halted = false) :
    (m.attempt bounds).halted = true ↔ m.AtEnd := by
  rw [← instruction_eq_halt_iff, attempt]
  cases outcome : m.step bounds with
  | halted after =>
      have halted := halted_of_step bounds m after outcome
      rw [running] at halted
      cases halted
  | stepped report next =>
      have told := told_of_stepped bounds m next report outcome
      refine told.halted.trans ?_
      rw [action_of_told m report next told]
      cases m.instruction? <;> simp
  | faulted error next =>
      obtain ⟨_, addressing, _⟩ := ((fails_iff bounds m).1 ⟨error, next, outcome⟩).2
      have still : next.halted = m.halted := by
        rw [(step_eq_faulted bounds m next error outcome).2, without_top_eq]
      rw [still, running]
      rcases addressing with get | put
      · rw [get]
        simp
      · rw [put]
        simp

theorem settled_attempt (bounds : Bounds) (m : Machine) (settled : m.Settled) :
    (m.attempt bounds).Settled := by
  cases halted : m.halted with
  | true =>
      rw [attempt_of_halted bounds m halted]
      exact settled
  | false =>
      intro ended
      have atEnd := (halts_iff bounds m halted).1 ended
      obtain ⟨report, _, stepped⟩ := step_at_end bounds m halted atEnd
      rw [attempt, stepped]
      exact atEnd

end Machine

namespace Session

namespace Operation

-- The operations that bring in no machine from elsewhere.
def isOwn : Operation → Bool
  | .restore _ | .apply _ => false
  | _ => true

end Operation

-- Sessions that have come about from fresh ones. A machine is restored, or an image loaded, only from
-- another session of this kind, the image as it was captured or as it was read back from its bytes.
inductive Grown : Session → Prop where
  | construct (source : String) (config : Config) (name : Option String) (tracer : Tracer)
      (capacity : Nat) (limit : Option UInt64) :
      Grown (construct source config name tracer capacity limit)
  | perform (s : Session) (operation : Operation) (own : operation.isOwn = true) (grown : Grown s) :
      Grown (s.perform operation).2
  | restore (s other : Session) (grown : Grown s) (taken : Grown other) :
      Grown (s.restore other.machine)
  | load (s other : Session) (image : Image) (grown : Grown s) (saved : Grown other)
      (captured : image = Image.capture other ∨
        (Image.capture other).Fits ∧ Image.decode (Image.capture other).encode = .ok image) :
      Grown (image.apply s)

theorem settled_back (s : Session) (count : Nat) (consistent : Consistent s)
    (settled : s.machine.Settled) : (s.back count).2.machine.Settled := by
  rw [back_machine, History.oldest]
  cases target : (s.history.newestFirst.take count).getLast? with
  | none => exact settled
  | some m =>
      have held : m ∈ s.history.newestFirst := List.mem_of_mem_take (List.mem_of_getLast? target)
      have running := History.recorded_running _ _ _ consistent m held
      intro halted
      rw [Option.getD_some, running] at halted
      cases halted

theorem settled_perform (s : Session) (operation : Operation) (own : operation.isOwn = true)
    (consistent : Consistent s) (settled : s.machine.Settled) :
    (s.perform operation).2.machine.Settled := by
  cases operation with
  | move m =>
      have kept := move_keeps (P := fun t => Consistent t ∧ t.machine.Settled)
        (fun t ⟨chained, still⟩ =>
          ⟨consistent_step t chained, by rw [machine_step]; exact t.machine.settled_attempt _ still⟩)
        (fun _ _ held => held)
        (fun t count ⟨chained, still⟩ =>
          ⟨consistent_back t count chained, settled_back t count chained still⟩)
        s m ⟨consistent, settled⟩
      exact kept.2
  | reset => exact fun halted => nomatch halted
  | restore | apply => cases own
  | reseed | setProgram | addBreakpoint | removeBreakpoint | clearBreakpoints | setLimit | mapTracer =>
      exact settled

theorem settled_of_grown (s : Session) (grown : Grown s) : Consistent s ∧ s.machine.Settled := by
  induction grown with
  | construct source config name tracer capacity limit =>
      exact ⟨consistent_of_cleared _ rfl, fun halted => nomatch halted⟩
  | perform s operation own _ ih =>
      exact ⟨consistent_perform s operation ih.1, settled_perform s operation own ih.1 ih.2⟩
  | restore s other _ _ _ ih => exact ⟨consistent_of_cleared _ rfl, ih.2⟩
  | load s other image _ _ captured _ ih =>
      have same : image = Image.capture other := by
        rcases captured with same | ⟨fits, read⟩
        · exact same
        · rw [Image.decode_encode_eq _ fits] at read
          cases read
          rfl
      subst same
      exact ⟨consistent_of_cleared _ rfl, ih.2⟩

theorem halting_is_final (s : Session) (grown : Grown s) :
    (s.machine.halted = true → s.machine.stringMode = false ∧ s.machine.cell = '@') ∧
    (s.machine.halted = false →
      (s.step.2.machine.halted = true ↔ s.machine.stringMode = false ∧ s.machine.cell = '@') ∧
      (s.step.2.machine.halted = true ↔
        ∃ report, s.step.1 = .ok (some report) ∧ report.action = .execute .halt)) ∧
    (s.machine.halted = true →
      s.step = (.ok none, s) ∧ (∀ count, s.steps count = (.ok none, s)) ∧
      ∀ fuel, s.run (fuel + 1) = (some (.ok ()), s) ∧ s.proceed (fuel + 1) = (some (.ok .halted), s)) := by
  refine ⟨(settled_of_grown s grown).2, ?_, ?_⟩
  · intro running
    rw [machine_step]
    have ends := Machine.halts_iff s.config.bounds s.machine running
    refine ⟨ends, ?_⟩
    constructor
    · intro halted
      obtain ⟨report, halting, stepped⟩ := Machine.step_at_end s.config.bounds _ running (ends.1 halted)
      exact ⟨report, by rw [step_answer, stepped]; rfl, halting⟩
    · rintro ⟨report, advanced, halting⟩
      obtain ⟨next, stepped⟩ := stepped_of_answer s report advanced
      rw [Machine.attempt, stepped]
      exact (Machine.told_of_stepped _ _ _ report stepped).halted.2 halting
  · intro halted
    refine ⟨step_of_halted s halted, ?_, ?_⟩
    · intro count
      cases count with
      | zero => rfl
      | succ count => rw [steps, stepsAfter, step_of_halted s halted]
    · exact fun fuel => ⟨run_of_halted fuel s halted, proceed_of_halted fuel s false halted⟩

-- A program that pushes `@` in string mode, stores it in its last cell and runs into it.
def ended : Session :=
  ((construct "\"@\"60px" {} none .disabled 9 none).perform (.move (.run 20))).2

-- Where it is loaded, the limit is exceeded, and a breakpoint lies on the cell.
def resumed : Session :=
  ((Image.capture ended).apply (construct "1@" {} none .disabled 5 (some 3))).perform
    (.addBreakpoint ⟨6, 0⟩) |>.2

theorem halting_is_final_of_a_program_that_stores_its_end :
    Grown resumed ∧ resumed.machine.halted = true ∧ resumed.overLimit?.isSome = true ∧
      resumed.breakpoints.contains resumed.machine.pointer.position = true ∧
      resumed.source = "\"@\"60px" ∧ resumed.machine.stringMode = false ∧ resumed.machine.cell = '@' ∧
      resumed.proceed 1 = (some (.ok .halted), resumed) := by
  have saved : Grown ended := .perform _ (.move (.run 20)) rfl (.construct _ _ _ _ _ _)
  have grown : Grown resumed :=
    .perform _ (.addBreakpoint ⟨6, 0⟩) rfl (.load _ ended _ (.construct _ _ _ _ _ _) saved (.inl rfl))
  have halted : resumed.machine.halted = true := by decide +kernel
  obtain ⟨stands, _, stays⟩ := halting_is_final resumed grown
  obtain ⟨mode, cell⟩ := stands halted
  exact ⟨grown, halted, by decide +kernel, by decide +kernel, rfl, mode, cell, ((stays halted).2.2 0).2⟩

end Session

end Befunge
