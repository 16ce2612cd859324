import Befunge.Proofs.Machine.Bounds

/-!
Output can be taken away while a program runs and nothing of it is lost. No instruction looks at what was
written before it, so a machine with less in its output goes on as before, and the texts taken, put one
behind the other and in front of what is left, are all that the program wrote.
-/
set_option autoImplicit false

namespace Befunge

namespace Machine

-- What is asked of a machine whose output is shown while it runs.
inductive Request where
  | step
  | takeOutput
deriving DecidableEq

structure Stream where
  results : List (Except Error (Option Report))
  taken : List String
  machine : Machine

def stream (bounds : Bounds) : List Request → Machine → Stream
  | [], m => { results := [], taken := [], machine := m }
  | .step :: requests, m =>
      let later := stream bounds requests (m.attempt bounds)
      { later with results := (m.step bounds).result :: later.results }
  | .takeOutput :: requests, m =>
      let (text, m) := m.takeOutput
      let later := stream bounds requests m
      { later with taken := text :: later.taken }

-- The results of so many steps, if nothing else is done.
def results (bounds : Bounds) : Nat → Machine → List (Except Error (Option Report))
  | 0, _ => []
  | count + 1, m => (m.step bounds).result :: results bounds count (m.attempt bounds)

-- The machine whose own output stands behind this text.
def behind (text : String) (m : Machine) : Machine :=
  { m with output := text ++ m.output }

def Executed.behind (text : String) : Executed → Executed
  | .done m effects => .done (m.behind text) effects
  | .outOfBounds x y m => .outOfBounds x y (m.behind text)

def Outcome.behind (text : String) : Outcome → Outcome
  | .halted m => .halted (m.behind text)
  | .stepped report m => .stepped report (m.behind text)
  | .faulted error m => .faulted error (m.behind text)

section Behind

variable (text : String) (bounds : Bounds) (m : Machine)

@[simp] theorem grid_behind : (m.behind text).grid = m.grid := rfl

@[simp] theorem halted_behind : (m.behind text).halted = m.halted := rfl

@[simp] theorem operand_behind (n : Nat) : (m.behind text).operand n = m.operand n := rfl

@[simp] theorem instruction_behind : (m.behind text).instruction? = m.instruction? := rfl

@[simp] theorem generator_behind : (m.behind text).generator = m.generator := rfl

@[simp] theorem pop_behind : (m.behind text).pop = (m.pop.1, m.pop.2.behind text) := rfl

@[simp] theorem without_top_behind (n : Nat) : (m.behind text).withoutTop n = (m.withoutTop n).behind text := by
  induction n generalizing m with
  | zero => rfl
  | succ n ih => exact ih m.pop.2

theorem emit_behind (written : String) : (m.behind text).emit written = (m.emit written).behind text := by
  simp [emit, write, behind, Executed.behind, String.append_assoc]

theorem fetch_cell_behind : (m.behind text).fetchCell bounds = (m.fetchCell bounds).behind text := by
  simp only [fetch_cell_eq, grid_behind, operand_behind, without_top_behind]
  split <;> rfl

theorem store_cell_behind : (m.behind text).storeCell bounds = (m.storeCell bounds).behind text := by
  simp only [store_cell_eq, grid_behind, operand_behind, without_top_behind]
  split <;> rfl

theorem execute_behind (instruction : Instruction) :
    (m.behind text).execute bounds instruction = (m.execute bounds instruction).behind text := by
  cases instruction with
  | random =>
      rw [execute_random, execute_random, generator_behind]
      rfl
  | printInt | printChar => simp only [execute, pop_behind, emit_behind]
  | get => exact fetch_cell_behind text bounds m
  | put => exact store_cell_behind text bounds m
  | digit | add | sub | mul | div | mod | not | greater | left | right | up | down
  | horizontalIf | verticalIf | trampoline | stringMode | dup | swap | discard | halt | nop => rfl

theorem completed_behind (position : Position) (cell : Char) (action : Action) (effects : Effects) :
    completed position cell action effects (m.behind text) =
      (completed position cell action effects m).behind text := by
  have finished : (m.behind text).finish = m.finish.behind text := by
    dsimp only [finish, behind]
    split <;> rfl
  rw [completed, finished]
  rfl

theorem step_behind : (m.behind text).step bounds = (m.step bounds).behind text := by
  cases running : m.halted with
  | true => simp [step, running, Outcome.behind]
  | false =>
      rw [step_of_running bounds m running, step_of_running bounds (m.behind text) running, instruction_behind]
      cases m.instruction? with
      | none => exact completed_behind text (m.push _) _ _ _ _
      | some instruction =>
          simp only [execute_behind]
          cases m.execute bounds instruction with
          | done next effects => exact completed_behind text next _ _ _ _
          | outOfBounds x y next => rfl

theorem attempt_behind : (m.behind text).attempt bounds = (m.attempt bounds).behind text := by
  rw [attempt, step_behind, attempt]
  cases m.step bounds with
  | halted | stepped | faulted => rfl

theorem result_behind : ((m.behind text).step bounds).result = (m.step bounds).result := by
  rw [step_behind]
  cases m.step bounds with
  | halted | stepped | faulted => rfl

theorem results_behind (count : Nat) : results bounds count (m.behind text) = results bounds count m := by
  induction count generalizing m with
  | zero => rfl
  | succ count ih => rw [results, results, result_behind, attempt_behind, ih]

theorem attempts_behind (count : Nat) :
    (m.behind text).attempts bounds count = (m.attempts bounds count).behind text := by
  induction count with
  | zero => rfl
  | succ count ih => rw [attempts_succ, attempts_succ, ih, attempt_behind]

theorem behind_empty : m.behind "" = m := by
  rw [behind, String.empty_append]

theorem behind_append (first second : String) :
    m.behind (first ++ second) = (m.behind second).behind first := by
  simp only [behind, String.append_assoc]

theorem behind_take_output : m.takeOutput.2.behind m.takeOutput.1 = m := by
  simp only [takeOutput, behind, String.append_empty]

end Behind

-- Induction on the requests: what is taken first stands in front of all that the others leave.
theorem stream_behind (bounds : Bounds) (requests : List Request) (m : Machine) :
    (m.stream bounds requests).results = m.results bounds (requests.count .step) ∧
      (m.stream bounds requests).machine.behind (String.join (m.stream bounds requests).taken) =
        m.attempts bounds (requests.count .step) := by
  induction requests generalizing m with
  | nil => exact ⟨rfl, behind_empty m⟩
  | cons request requests ih =>
      cases request with
      | step =>
          obtain ⟨told, alone⟩ := ih (m.attempt bounds)
          rw [List.count_cons_self, attempts_succ', ← alone, stream, results, told]
          exact ⟨rfl, rfl⟩
      | takeOutput =>
          obtain ⟨told, alone⟩ := ih m.takeOutput.2
          rw [List.count_cons_of_ne (by decide), stream]
          refine ⟨?_, ?_⟩
          · rw [← results_behind m.takeOutput.1, behind_take_output] at told
            exact told
          · rw [String.join_cons, behind_append]
            dsimp only
            rw [alone, ← attempts_behind, behind_take_output]

theorem streaming_is_lossless (bounds : Bounds) (m : Machine) (requests : List Request) :
    let streamed := m.stream bounds requests
    let alone := m.attempts bounds (requests.count .step)
    streamed.results = m.results bounds (requests.count .step) ∧
      streamed.machine = { alone with output := streamed.machine.output } ∧
      String.join streamed.taken ++ streamed.machine.output = alone.output := by
  intro streamed alone
  obtain ⟨told, whole⟩ := stream_behind bounds requests m
  refine ⟨told, ?_, congrArg output whole⟩
  rw [show alone = streamed.machine.behind (String.join streamed.taken) from whole.symm]
  rfl

-- Taken before anything is written, between the numbers, twice in a row, and not at the end.
example :
    let requests := [.takeOutput, .step, .step, .takeOutput, .takeOutput, .step, .step, .step]
    let streamed := (load "1.2.@" {}).stream .lenient requests
    streamed.taken = ["", "1", ""] ∧ streamed.machine.output = "2" ∧ streamed.machine.halted = true := by
  decide +kernel

end Machine

end Befunge
