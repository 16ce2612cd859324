import Mathlib.Logic.Function.Iterate
import Befunge.Proofs.Machine.Step

/-!
Strict bounds are lenient bounds with detection. A step fails in one case only, where an instruction
addresses what is no cell under strict bounds, and then nothing is changed but for the operands. In
every other case the bounds make no difference, so two runs of one program go together up to the
first step that fails.
-/
set_option autoImplicit false

namespace Befunge

namespace Machine

def Fails (bounds : Bounds) (m : Machine) : Prop :=
  ∃ error next, m.step bounds = .faulted error next

-- The next step executes `g` or `p`, and there is no cell that its operands address.
def AccessesOutside (m : Machine) : Prop :=
  m.halted = false ∧ (m.instruction? = some .get ∨ m.instruction? = some .put) ∧
    ¬ m.grid.Holds (m.operand 1) (m.operand 0)

instance (m : Machine) : Decidable m.AccessesOutside :=
  inferInstanceAs (Decidable (_ ∧ _ ∧ _))

def operandCount (m : Machine) : Nat :=
  if m.instruction? = some .get then 2 else 3

def outsideError (m : Machine) : Error :=
  { cause := .outOfBounds (m.operand 1) (m.operand 0)
    context := some { position := some m.pointer.position, steps := some m.steps } }

def Outcome.result : Outcome → Except Error (Option Report)
  | .halted _ => .ok none
  | .stepped report _ => .ok (some report)
  | .faulted error _ => .error error

-- The machine after so many steps, whatever came of each.
def attempts (bounds : Bounds) (n : Nat) (m : Machine) : Machine :=
  (attempt bounds)^[n] m

-- Only these two look at the bounds, and only where there is no cell.
theorem execute_of_inside (m : Machine) (instruction : Instruction)
    (inside : instruction = .get ∨ instruction = .put → m.grid.Holds (m.operand 1) (m.operand 0)) :
    ∃ after effects, ∀ bounds, m.execute bounds instruction = .done after effects := by
  have found : instruction = .get ∨ instruction = .put →
      ∃ p, m.grid.locate (m.operand 1) (m.operand 0) = some p := by
    intro addressing
    rw [← Option.ne_none_iff_exists', ne_eq, Grid.locate_eq_none_iff, Decidable.not_not]
    exact inside addressing
  cases instruction with
  | get =>
      obtain ⟨p, place⟩ := found (.inl rfl)
      refine ⟨(m.withoutTop 2).push (Cell.value (m.grid.fetch p)), {}, ?_⟩
      intro bounds
      rw [execute, fetch_cell_eq, place]
  | put =>
      obtain ⟨p, place⟩ := found (.inr rfl)
      let c := Cell.ofValue (m.withoutTop 2).pop.1
      refine ⟨{ m.withoutTop 3 with grid := m.grid.set p.x p.y c }, { stored := some (p, c) }, ?_⟩
      intro bounds
      rw [execute, store_cell_eq, place]
  | digit | add | sub | mul | div | mod | not | greater | left | right | up | down | random
  | horizontalIf | verticalIf | trampoline | stringMode | dup | swap | discard | printInt | printChar
  | halt | nop => exact ⟨_, _, fun _ => rfl⟩

theorem execute_get_of_outside (bounds : Bounds) (m : Machine)
    (outside : ¬ m.grid.Holds (m.operand 1) (m.operand 0)) :
    m.execute bounds .get =
      match bounds with
      | .lenient => .done ((m.withoutTop 2).push 0) {}
      | .strict => .outOfBounds (m.operand 1) (m.operand 0) (m.withoutTop 2) := by
  rw [execute, fetch_cell_eq, (Grid.locate_eq_none_iff ..).2 outside]
  cases bounds with
  | lenient => rfl
  | strict => rfl

theorem execute_put_of_outside (bounds : Bounds) (m : Machine)
    (outside : ¬ m.grid.Holds (m.operand 1) (m.operand 0)) :
    m.execute bounds .put =
      match bounds with
      | .lenient => .done (m.withoutTop 3) {}
      | .strict => .outOfBounds (m.operand 1) (m.operand 0) (m.withoutTop 3) := by
  rw [execute, store_cell_eq, (Grid.locate_eq_none_iff ..).2 outside]
  cases bounds with
  | lenient => rfl
  | strict => rfl

theorem step_of_inside (m : Machine) (inside : ¬ m.AccessesOutside) (bounds : Bounds) :
    m.step bounds = m.step .lenient ∧ ∀ error next, m.step bounds ≠ .faulted error next := by
  cases running : m.halted with
  | true => simp [step, running]
  | false =>
      rw [step_of_running bounds m running, step_of_running .lenient m running]
      cases chosen : m.instruction? with
      | none => exact ⟨rfl, by simp [completed]⟩
      | some instruction =>
          have holds : instruction = .get ∨ instruction = .put →
              m.grid.Holds (m.operand 1) (m.operand 0) := by
            intro addressing
            by_contra outside
            exact inside ⟨running, by simpa [chosen] using addressing, outside⟩
          obtain ⟨after, effects, done⟩ := execute_of_inside m instruction holds
          simp only [done]
          exact ⟨trivial, by simp [completed]⟩

theorem step_strict_of_outside (m : Machine) (outside : m.AccessesOutside) :
    m.step .strict = .faulted m.outsideError (m.withoutTop m.operandCount) := by
  obtain ⟨running, chosen, nowhere⟩ := outside
  rw [step_of_running .strict m running, operandCount]
  rcases chosen with get | put
  · rw [get, if_pos rfl]
    simp only [execute_get_of_outside .strict m nowhere]
    rfl
  · rw [put, if_neg (by simp)]
    simp only [execute_put_of_outside .strict m nowhere]
    rfl

theorem step_lenient_of_outside (m : Machine) (outside : m.AccessesOutside) :
    ∃ report next, m.step .lenient = .stepped report next ∧ report.effects = {} ∧
      next.grid = m.grid ∧
      (report.action = .execute .get ∧ next.stack.topFirst = 0 :: m.stack.topFirst.drop 2 ∨
        report.action = .execute .put ∧ next.stack.topFirst = m.stack.topFirst.drop 3) := by
  obtain ⟨running, chosen, nowhere⟩ := outside
  rw [step_of_running .lenient m running]
  rcases chosen with get | put
  · rw [get]
    simp only [execute_get_of_outside .lenient m nowhere]
    refine ⟨_, _, rfl, rfl, ?_, .inl ⟨rfl, ?_⟩⟩
    · rw [finish_eq, without_top_eq]
      rfl
    · rw [finish_eq, ← top_first_without_top]
      rfl
  · rw [put]
    simp only [execute_put_of_outside .lenient m nowhere]
    refine ⟨_, _, rfl, rfl, ?_, .inr ⟨rfl, ?_⟩⟩
    · rw [finish_eq, without_top_eq]
    · rw [finish_eq, ← top_first_without_top]

theorem fails_iff (bounds : Bounds) (m : Machine) :
    m.Fails bounds ↔ bounds = .strict ∧ m.AccessesOutside := by
  constructor
  · rintro ⟨error, next, faulted⟩
    have outside : m.AccessesOutside := by
      by_contra inside
      exact (step_of_inside m inside bounds).2 error next faulted
    refine ⟨?_, outside⟩
    cases bounds with
    | strict => rfl
    | lenient =>
        obtain ⟨report, after, stepped, _⟩ := step_lenient_of_outside m outside
        rw [stepped] at faulted
        cases faulted
  · rintro ⟨rfl, outside⟩
    exact ⟨_, _, step_strict_of_outside m outside⟩

instance (bounds : Bounds) (m : Machine) : Decidable (m.Fails bounds) :=
  decidable_of_iff _ (fails_iff bounds m).symm

theorem step_eq_faulted (bounds : Bounds) (m next : Machine) (error : Error)
    (faulted : m.step bounds = .faulted error next) :
    error = m.outsideError ∧ next = m.withoutTop m.operandCount := by
  obtain ⟨rfl, outside⟩ := (fails_iff bounds m).1 ⟨error, next, faulted⟩
  rw [step_strict_of_outside m outside] at faulted
  cases faulted
  exact ⟨rfl, rfl⟩

-- What a step can leave behind: a machine that had halted, one whose cell was applied, or one whose
-- access failed, without its operands.
inductive Attempted (bounds : Bounds) (m : Machine) : Machine → Prop where
  | halted (halted : m.halted = true) : Attempted bounds m m
  | applied (action : Action) (effects : Effects) (after : Machine) (running : m.halted = false)
      (applied : Applied bounds m action effects after) : Attempted bounds m after.finish
  | failed (outside : m.AccessesOutside) : Attempted bounds m (m.withoutTop m.operandCount)

theorem attempted (bounds : Bounds) (m : Machine) : Attempted bounds m (m.attempt bounds) := by
  cases running : m.halted with
  | true =>
      rw [attempt_of_halted bounds m running]
      exact .halted running
  | false =>
      rw [attempt]
      cases outcome : m.step bounds with
      | halted last =>
          rw [halted_of_step bounds m last outcome] at running
          cases running
      | stepped report next =>
          obtain ⟨_, action, effects, after, applied, same⟩ :=
            (step_eq_stepped_iff bounds m next report).1 outcome
          cases same
          exact .applied action effects after running applied
      | faulted error next =>
          obtain ⟨_, rfl⟩ := step_eq_faulted bounds m next error outcome
          exact .failed ((fails_iff bounds m).1 ⟨error, _, outcome⟩).2

theorem step_strict_of_not_fails (m : Machine) (succeeds : ¬ m.Fails .strict) :
    m.step .strict = m.step .lenient :=
  (step_of_inside m (fun outside => succeeds ((fails_iff .strict m).2 ⟨rfl, outside⟩)) .strict).1

theorem attempts_succ (bounds : Bounds) (n : Nat) (m : Machine) :
    m.attempts bounds (n + 1) = (m.attempts bounds n).attempt bounds :=
  Function.iterate_succ_apply' _ _ _

theorem attempts_succ' (bounds : Bounds) (n : Nat) (m : Machine) :
    m.attempts bounds (n + 1) = (m.attempt bounds).attempts bounds n :=
  Function.iterate_succ_apply _ _ _

theorem attempts_succ_of_stepped (bounds : Bounds) (n : Nat) (m next : Machine) (report : Report)
    (stepped : (m.attempts bounds n).step bounds = .stepped report next) :
    m.attempts bounds (n + 1) = next := by
  rw [attempts_succ, attempt, stepped]

-- Induction on the steps: where neither run has met a failing one, they are at one machine, and the
-- next step does not tell them apart.
theorem attempts_eq (m : Machine) (n : Nat) (succeed : ∀ i < n, ¬ (m.attempts .strict i).Fails .strict) :
    m.attempts .strict n = m.attempts .lenient n := by
  induction n with
  | zero => rfl
  | succ n ih =>
      have same := ih fun i before => succeed i (by omega)
      have step := step_strict_of_not_fails _ (succeed n (by omega))
      rw [attempts_succ, attempts_succ, ← same, attempt, attempt, step]

-- The machine after so many steps of a program that is run under these bounds.
def under (bounds : Bounds) (source : String) (seed : UInt64) (n : Nat) : Machine :=
  (load source { seed, bounds }).attempts bounds n

section Program

variable (source : String) (seed : UInt64)

theorem under_eq (n : Nat) (succeed : ∀ i < n, ¬ (under .strict source seed i).Fails .strict) :
    under .strict source seed n = under .lenient source seed n :=
  attempts_eq (load source { seed, bounds := .strict }) n succeed

theorem step_under_eq (n : Nat) (succeed : ∀ i < n, ¬ (under .strict source seed i).Fails .strict)
    (succeeds : ¬ (under .strict source seed n).Fails .strict) :
    (under .strict source seed n).step .strict = (under .lenient source seed n).step .lenient := by
  rw [step_strict_of_not_fails _ succeeds, under_eq source seed n succeed]

-- Strong induction: the strict run has come to where the lenient one is, and fails there only on an
-- access outside.
theorem not_fails_under (inside : ∀ k, ¬ (under .lenient source seed k).AccessesOutside) (k : Nat) :
    ¬ (under .strict source seed k).Fails .strict := by
  induction k using Nat.strongRecOn with
  | ind k ih =>
      intro fails
      rw [fails_iff, under_eq source seed k ih] at fails
      exact inside k fails.2

theorem strict_is_lenient_with_detection :
    (∀ n, (∀ i < n, ¬ (under .strict source seed i).Fails .strict) →
      (∀ i ≤ n, under .strict source seed i = under .lenient source seed i) ∧
      ∀ i < n, (under .strict source seed i).step .strict =
        (under .lenient source seed i).step .lenient) ∧
    (∀ k, (∀ i < k, ¬ (under .strict source seed i).Fails .strict) →
      (under .strict source seed k).Fails .strict →
      under .strict source seed k = under .lenient source seed k ∧
      (under .lenient source seed k).AccessesOutside ∧
      let before := under .lenient source seed k
      let after := under .lenient source seed (k + 1)
      ∃ report, before.step .lenient = .stepped report after ∧
        report.effects = {} ∧ after.grid = before.grid ∧
        (report.action = .execute .get ∧ after.stack.topFirst = 0 :: before.stack.topFirst.drop 2 ∨
          report.action = .execute .put ∧ after.stack.topFirst = before.stack.topFirst.drop 3)) ∧
    ((∀ k, ¬ (under .lenient source seed k).AccessesOutside) ↔
      ∀ k, ¬ (under .strict source seed k).Fails .strict) ∧
    ((∀ k, ¬ (under .strict source seed k).Fails .strict) → ∀ k,
      under .strict source seed k = under .lenient source seed k ∧
      (under .strict source seed k).step .strict = (under .lenient source seed k).step .lenient) := by
  refine ⟨?_, ?_, ⟨not_fails_under source seed, ?_⟩, ?_⟩
  · intro n succeed
    refine ⟨?_, ?_⟩
    · intro i upTo
      exact under_eq source seed i fun j before => succeed j (by omega)
    · intro i before
      exact step_under_eq source seed i (fun j earlier => succeed j (by omega)) (succeed i before)
  · intro k succeed fails
    have same := under_eq source seed k succeed
    have outside := ((fails_iff .strict _).1 fails).2
    rw [same] at outside
    obtain ⟨report, next, stepped, read⟩ := step_lenient_of_outside _ outside
    have after : under .lenient source seed (k + 1) = next :=
      attempts_succ_of_stepped .lenient k _ next report stepped
    refine ⟨same, outside, report, ?_⟩
    rw [after]
    exact ⟨stepped, read⟩
  · intro succeed k outside
    rw [← under_eq source seed k fun i _ => succeed i] at outside
    exact succeed k ((fails_iff .strict _).2 ⟨rfl, outside⟩)
  · intro succeed k
    exact ⟨under_eq source seed k fun i _ => succeed i,
      step_under_eq source seed k (fun i _ => succeed i) (succeed k)⟩

end Program

-- The third step reads at (9, 9), where this program has no cell.
theorem strict_is_lenient_with_detection_at_a_missing_cell :
    (∀ i < 2, ¬ (under .strict "99g@" 7 i).Fails .strict) ∧
      (under .strict "99g@" 7 2).Fails .strict ∧
      under .strict "99g@" 7 2 = under .lenient "99g@" 7 2 ∧
      ∃ report, (under .lenient "99g@" 7 2).step .lenient =
          .stepped report (under .lenient "99g@" 7 3) ∧
        report.action = .execute .get ∧ (under .lenient "99g@" 7 3).stack.topFirst = [0] := by
  have succeed : ∀ i < 2, ¬ (under .strict "99g@" 7 i).Fails .strict := by decide +kernel
  have fails : (under .strict "99g@" 7 2).Fails .strict := by decide +kernel
  have two : (under .lenient "99g@" 7 2).stack.topFirst = [9, 9] := by decide +kernel
  have one : (under .lenient "99g@" 7 3).stack.topFirst = [0] := by decide +kernel
  obtain ⟨_, parting, _⟩ := strict_is_lenient_with_detection "99g@" 7
  obtain ⟨same, _, report, stepped, _, _, read | written⟩ := parting 2 succeed fails
  · exact ⟨succeed, fails, same, report, stepped, read.1, one⟩
  · rw [one, two] at written
    cases written.2

end Machine

end Befunge
