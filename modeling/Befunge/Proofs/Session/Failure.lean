import Befunge.Proofs.Machine.Bounds
import Befunge.Proofs.Session.Step

/-!
Failures. Under strict bounds a step fails exactly where it addresses what is no cell, and only its
operands are gone then. Whatever operation of a session passes a failure on, or gives up at the step
limit, its error tells the place and the count of steps at which it leaves the session.
-/
set_option autoImplicit false

namespace Befunge

namespace Session

def place (s : Session) : Context :=
  { source := s.name, position := some s.machine.pointer.position, steps := some s.machine.steps }

def exhausted (limit : UInt64) (s : Session) : Error :=
  { cause := .stepLimit limit, context := some s.place }

theorem labelled_eq (name : Option String) (cause : Cause) (position : Position) (steps : UInt64) :
    Error.labelled name { cause, context := some { position := some position, steps := some steps } } =
      { cause, context := some { source := name, position := some position, steps := some steps } } := by
  cases name with
  | none => rfl
  | some name => rfl

-- A fault leaves pointer and count where they were, and these are what its context holds.
theorem place_step (s : Session) (error : Error) (failed : s.step.1 = .error error) :
    error.context = some s.step.2.place := by
  rw [step_answer] at failed
  cases outcome : s.machine.step s.config.bounds with
  | halted after => rw [outcome] at failed; cases failed
  | stepped report after => rw [outcome] at failed; cases failed
  | faulted fault after =>
      rw [outcome] at failed
      obtain ⟨rfl, left⟩ := Machine.step_eq_faulted _ _ _ _ outcome
      have machine : s.step.2.machine = s.machine.withoutTop s.machine.operandCount := by
        rw [machine_step, Machine.attempt, outcome]
        exact left
      cases failed
      rw [Machine.outsideError, labelled_eq, place, name_step, machine, Machine.without_top_eq]

theorem over_limit_eq (s : Session) :
    s.overLimit? =
      match s.limit with
      | some limit => if limit ≤ s.machine.steps then some (s.exhausted limit) else none
      | none => none := by
  rw [overLimit?]
  cases s.limit with
  | none => rfl
  | some limit =>
      dsimp only
      rw [labelled_eq]
      rfl

theorem over_limit_of_limited (limit : UInt64) (s : Session) (limited : s.limit = some limit) :
    s.overLimit? = if limit.toNat ≤ s.machine.steps.toNat then some (s.exhausted limit) else none := by
  rw [over_limit_eq, limited]
  rfl

theorem place_over_limit (s : Session) (error : Error) (spent : s.overLimit? = some error) :
    error.context = some s.place := by
  rw [over_limit_eq] at spent
  split at spent
  · split at spent
    · cases spent
      rfl
    · cases spent
  · cases spent

section Failing

-- What holds of the error and the session after every failing step, and after every use of the limit,
-- holds after whatever passes the error on.
variable {Q : Error → Session → Prop}
  (failed : ∀ (s : Session) error, s.step.1 = .error error → Q error s.step.2)

include failed

theorem steps_after_fails (last : Option Report) (count : Nat) (s : Session) (error : Error) :
    (stepsAfter last count s).1 = .error error → Q error (stepsAfter last count s).2 := by
  induction count generalizing last s with
  | zero => exact fun fails => by cases fails
  | succ count ih =>
      have here := failed s error
      rw [stepsAfter]
      split
      · exact fun fails => by cases fails
      · rename_i report next _
        exact ih (some report) next
      · rename_i fault next stepped
        rwa [stepped] at here

theorem steps_fails (count : Nat) (s : Session) (error : Error) :
    (s.steps count).1 = .error error → Q error (s.steps count).2 :=
  steps_after_fails failed none count s error

variable (spent : ∀ (s : Session) error, s.overLimit? = some error → Q error s)

include spent

theorem run_fails (fuel : Nat) (s : Session) (error : Error) :
    (s.run fuel).1 = some (.error error) → Q error (s.run fuel).2 := by
  induction fuel generalizing s with
  | zero => exact fun fails => by cases fails
  | succ fuel ih =>
      have here := failed s error
      rw [run]
      split
      · exact fun fails => by cases fails
      · split
        · rename_i limit used
          intro fails
          cases fails
          exact spent s error used
        · split
          · rename_i next _
            exact ih next
          · rename_i fault next stepped
            rw [stepped] at here
            intro fails
            cases fails
            exact here rfl

theorem proceed_from_fails (moved : Bool) (fuel : Nat) (s : Session) (error : Error) :
    (proceedFrom moved fuel s).1 = some (.error error) → Q error (proceedFrom moved fuel s).2 := by
  induction fuel generalizing moved s with
  | zero => exact fun fails => by cases fails
  | succ fuel ih =>
      have here := failed s error
      rw [proceedFrom]
      split
      · exact fun fails => by cases fails
      · split
        · exact fun fails => by cases fails
        · split
          · rename_i limit used
            intro fails
            cases fails
            exact spent s error used
          · split
            · rename_i next _
              exact ih true next
            · rename_i fault next stepped
              rw [stepped] at here
              intro fails
              cases fails
              exact here rfl

end Failing

theorem strict_faults_exact :
    (∀ (bounds : Bounds) (m : Machine), m.Fails bounds ↔
      m.halted = false ∧ bounds = .strict ∧ (m.instruction? = some .get ∨ m.instruction? = some .put) ∧
        ¬ m.grid.Holds (m.operand 1) (m.operand 0)) ∧
    (∀ (bounds : Bounds) (m next : Machine) (error : Error), m.step bounds = .faulted error next →
      error.cause = .outOfBounds (m.operand 1) (m.operand 0) ∧
      next = { m with stack := next.stack } ∧
      next.stack.topFirst = m.stack.topFirst.drop (if m.instruction? = some .get then 2 else 3)) ∧
    (∀ m : Machine, ¬ m.Fails .lenient) ∧
    (∀ (s : Session) error, s.step.1 = .error error → error.context = some s.step.2.place) ∧
    (∀ (s : Session) count error, (s.steps count).1 = .error error →
      error.context = some (s.steps count).2.place) ∧
    (∀ (s : Session) fuel error, (s.run fuel).1 = some (.error error) →
      error.context = some (s.run fuel).2.place) ∧
    ∀ (s : Session) fuel error, (s.proceed fuel).1 = some (.error error) →
      error.context = some (s.proceed fuel).2.place := by
  refine ⟨?_, ?_, ?_, place_step, ?_, ?_, ?_⟩
  · intro bounds m
    rw [Machine.fails_iff, Machine.AccessesOutside]
    exact and_left_comm
  · intro bounds m next error faulted
    obtain ⟨rfl, rfl⟩ := Machine.step_eq_faulted bounds m next error faulted
    exact ⟨rfl, Machine.without_top_eq _ m, Machine.top_first_without_top _ m⟩
  · intro m fails
    cases ((Machine.fails_iff .lenient m).1 fails).1
  · exact fun s count error =>
      steps_fails (Q := fun error s => error.context = some s.place) place_step count s error
  · exact fun s fuel error => run_fails place_step place_over_limit fuel s error
  · exact fun s fuel error => proceed_from_fails place_step place_over_limit false fuel s error

-- A read in the row 5, which there is not, with the column left to the empty stack.
def misreading : Session :=
  { start "5g@" { bounds := .strict } with name := some "misreading" }

theorem strict_faults_exact_at_a_missing_operand :
    misreading.step.2.machine.Fails .strict ∧
      ∃ error, (misreading.steps 9).1 = .error error ∧
        error.context = some { source := some "misreading", position := some ⟨1, 0⟩, steps := some 1 } := by
  obtain ⟨fails, _, _, _, steps, _⟩ := strict_faults_exact
  refine ⟨(fails _ _).2 (by decide +kernel), ?_⟩
  have failed : ((misreading.steps 9).1.toOption).isNone = true := by decide +kernel
  have place : (misreading.steps 9).2.place =
      { source := some "misreading", position := some ⟨1, 0⟩, steps := some 1 } := by decide +kernel
  cases answer : (misreading.steps 9).1 with
  | ok report => rw [answer] at failed; cases failed
  | error error => exact ⟨error, rfl, by rw [steps _ _ _ answer, place]⟩

end Session

end Befunge
