import Befunge.Proofs.Machine.Bounds

/-!
Below the values of a stack there are only zeros, and no program can tell how many of them are stored.
Two machines whose stacks differ in stored zeros at the bottom, and in nothing else, give the same
reports and the same errors at every step, and go on differing in nothing else.
-/
set_option autoImplicit false

namespace Befunge

namespace Stack

-- The one stack is the other with so many zeros put below its values.
def DeepensTo (s deep : Stack) : Prop :=
  ∃ count, deep.topFirst = s.topFirst ++ List.replicate count 0

def SameButZeros (s t : Stack) : Prop :=
  s.DeepensTo t ∨ t.DeepensTo s

theorem deepens_push (v : Value) (s deep : Stack) (deepens : s.DeepensTo deep) :
    (s.push v).DeepensTo (deep.push v) := by
  obtain ⟨count, values⟩ := deepens
  exact ⟨count, congrArg (List.cons v) values⟩

-- A value is taken off both stacks, or a stored zero off the deep one only.
theorem deepens_pop (s deep : Stack) (deepens : s.DeepensTo deep) :
    deep.pop.1 = s.pop.1 ∧ s.pop.2.DeepensTo deep.pop.2 := by
  obtain ⟨count, values⟩ := deepens
  simp only [DeepensTo, pop, values]
  cases s.topFirst with
  | cons v rest => exact ⟨rfl, count, rfl⟩
  | nil =>
      cases count with
      | zero => exact ⟨rfl, 0, rfl⟩
      | succ count => exact ⟨rfl, count, rfl⟩

theorem deepens_peek (s deep : Stack) (deepens : s.DeepensTo deep) :
    deep.peek?.getD 0 = s.peek?.getD 0 := by
  have top := (deepens_pop s deep deepens).1
  rwa [pop, pop, List.headD_eq_head?_getD, List.headD_eq_head?_getD] at top

end Stack

namespace Machine

def DeepensTo (m deep : Machine) : Prop :=
  ∃ stack, m.stack.DeepensTo stack ∧ deep = { m with stack }

-- Both are done, or both out of bounds, with the same to tell of it.
inductive Matched : Executed → Executed → Prop where
  | done (m deep : Machine) (effects : Effects) (deepens : m.DeepensTo deep) :
      Matched (.done m effects) (.done deep effects)
  | outOfBounds (x y : Value) (m deep : Machine) (deepens : m.DeepensTo deep) :
      Matched (.outOfBounds x y m) (.outOfBounds x y deep)

inductive Agreeing : Outcome → Outcome → Prop where
  | halted (m deep : Machine) (deepens : m.DeepensTo deep) : Agreeing (.halted m) (.halted deep)
  | stepped (report : Report) (m deep : Machine) (deepens : m.DeepensTo deep) :
      Agreeing (.stepped report m) (.stepped report deep)
  | faulted (error : Error) (m deep : Machine) (deepens : m.DeepensTo deep) :
      Agreeing (.faulted error m) (.faulted error deep)

section Deepening

variable (m deep : Machine) (deepens : m.DeepensTo deep)

include deepens

theorem read_alike : deep.grid = m.grid ∧ deep.halted = m.halted ∧ deep.instruction? = m.instruction? ∧
    deep.cell = m.cell ∧ deep.pointer = m.pointer ∧ deep.steps = m.steps := by
  obtain ⟨stack, _, rfl⟩ := deepens
  exact ⟨rfl, rfl, rfl, rfl, rfl, rfl⟩

theorem deepens_push (v : Value) : (m.push v).DeepensTo (deep.push v) := by
  obtain ⟨stack, deeper, rfl⟩ := deepens
  exact ⟨stack.push v, Stack.deepens_push v m.stack stack deeper, rfl⟩

theorem deepens_pop : deep.pop.1 = m.pop.1 ∧ m.pop.2.DeepensTo deep.pop.2 := by
  obtain ⟨stack, deeper, rfl⟩ := deepens
  obtain ⟨top, below⟩ := Stack.deepens_pop m.stack stack deeper
  exact ⟨top, stack.pop.2, below, rfl⟩

-- What is done to a machine without regard to its stack is done to both alike.
theorem deepens_aside (f : Machine → Machine) (aside : ∀ stack, f { m with stack } = { f m with stack }) :
    (f m).DeepensTo (f deep) := by
  obtain ⟨stack, deeper, rfl⟩ := deepens
  have same : f m = { f m with stack := m.stack } := aside m.stack
  have kept : (f m).stack = m.stack := by rw [same]
  exact ⟨stack, by rwa [kept], aside stack⟩

theorem deepens_without_top (n : Nat) : (m.withoutTop n).DeepensTo (deep.withoutTop n) := by
  induction n generalizing m deep with
  | zero => exact deepens
  | succ n ih => exact ih m.pop.2 deep.pop.2 (deepens_pop m deep deepens).2

theorem deepens_operand (n : Nat) : deep.operand n = m.operand n := by
  rw [← pop_without_top, ← pop_without_top]
  exact (deepens_pop _ _ (deepens_without_top m deep deepens n)).1

theorem deepens_combine (f : Value → Value → Value) : (m.combine f).DeepensTo (deep.combine f) := by
  obtain ⟨top, below⟩ := deepens_pop m deep deepens
  obtain ⟨second, rest⟩ := deepens_pop m.pop.2 deep.pop.2 below
  change (m.pop.2.pop.2.push (f m.pop.2.pop.1 m.pop.1)).DeepensTo
    (deep.pop.2.pop.2.push (f deep.pop.2.pop.1 deep.pop.1))
  rw [top, second]
  exact deepens_push _ _ rest _

theorem deepens_branch (zero other : Direction) : (m.branch zero other).DeepensTo (deep.branch zero other) := by
  obtain ⟨top, below⟩ := deepens_pop m deep deepens
  change (m.pop.2.turn (if m.pop.1 = 0 then zero else other)).DeepensTo
    (deep.pop.2.turn (if deep.pop.1 = 0 then zero else other))
  rw [top]
  exact deepens_aside _ _ below (·.turn _) fun _ => rfl

theorem deepens_finish : m.finish.DeepensTo deep.finish := by
  apply deepens_aside m deep deepens finish
  intro stack
  dsimp only [finish]
  split
  · rfl
  · rfl

theorem matched_fetch_cell (bounds : Bounds) : Matched (m.fetchCell bounds) (deep.fetchCell bounds) := by
  have below := deepens_without_top m deep deepens 2
  have grid := (read_alike m deep deepens).1
  rw [fetch_cell_eq, fetch_cell_eq, deepens_operand m deep deepens, deepens_operand m deep deepens, grid]
  split
  · exact .done _ _ _ (deepens_push _ _ below _)
  · exact .done _ _ _ (deepens_push _ _ below _)
  · exact .outOfBounds _ _ _ _ below

theorem matched_store_cell (bounds : Bounds) : Matched (m.storeCell bounds) (deep.storeCell bounds) := by
  have below := deepens_without_top m deep deepens 3
  have grid := (read_alike m deep deepens).1
  rw [store_cell_eq, store_cell_eq, deepens_operand m deep deepens, deepens_operand m deep deepens, grid,
    pop_without_top, pop_without_top, deepens_operand m deep deepens]
  split
  · exact .done _ _ _ (deepens_aside _ _ below (fun m => { m with grid := _ }) fun _ => rfl)
  · exact .done _ _ _ below
  · exact .outOfBounds _ _ _ _ below

theorem matched_emit (text : String) : Matched (m.emit text) (deep.emit text) :=
  .done _ _ _ (deepens_aside m deep deepens (·.write text) fun _ => rfl)

-- One case for each instruction: what it does to a stack is made of pushes and pops, and `:` looks at
-- the top as a pop would.
theorem matched_execute (bounds : Bounds) (instruction : Instruction) :
    Matched (m.execute bounds instruction) (deep.execute bounds instruction) := by
  obtain ⟨top, below⟩ := deepens_pop m deep deepens
  cases instruction with
  | digit d => exact .done _ _ _ (deepens_push m deep deepens _)
  | add | sub | mul | div | mod | greater => exact .done _ _ _ (deepens_combine m deep deepens _)
  | left | right | up | down => exact .done _ _ _ (deepens_aside m deep deepens (·.turn _) fun _ => rfl)
  | horizontalIf | verticalIf => exact .done _ _ _ (deepens_branch m deep deepens _ _)
  | random | stringMode | halt =>
      obtain ⟨stack, deeper, rfl⟩ := deepens
      exact .done _ _ _ ⟨stack, deeper, rfl⟩
  | trampoline => exact .done _ _ _ (deepens_aside m deep deepens advance fun _ => rfl)
  | discard => exact .done _ _ _ below
  | nop => exact .done _ _ _ deepens
  | get => exact matched_fetch_cell m deep deepens bounds
  | put => exact matched_store_cell m deep deepens bounds
  | not =>
      dsimp only [execute]
      rw [top]
      exact .done _ _ _ (deepens_push _ _ below _)
  | dup =>
      have peeked : deep.stack.peek?.getD 0 = m.stack.peek?.getD 0 := by
        obtain ⟨stack, deeper, rfl⟩ := deepens
        exact Stack.deepens_peek m.stack stack deeper
      dsimp only [execute]
      rw [peeked]
      exact .done _ _ _ (deepens_push m deep deepens _)
  | swap =>
      obtain ⟨second, rest⟩ := deepens_pop m.pop.2 deep.pop.2 below
      dsimp only [execute]
      rw [top, second]
      exact .done _ _ _ (deepens_push _ _ (deepens_push _ _ rest _) _)
  | printInt | printChar =>
      dsimp only [execute]
      rw [top]
      exact matched_emit _ _ below _

theorem agreeing_completed (position : Position) (cell : Char) (action : Action) (effects : Effects) :
    Agreeing (completed position cell action effects m) (completed position cell action effects deep) := by
  obtain ⟨stack, deeper, same⟩ := deepens_finish m deep deepens
  rw [completed, completed, same]
  exact .stepped _ _ _ ⟨stack, deeper, rfl⟩

theorem agreeing_step (bounds : Bounds) : Agreeing (m.step bounds) (deep.step bounds) := by
  obtain ⟨_, halted, chosen, cell, pointer, steps⟩ := read_alike m deep deepens
  cases running : m.halted with
  | true =>
      rw [running] at halted
      rw [step, step, if_pos running, if_pos halted]
      exact .halted m deep deepens
  | false =>
      rw [running] at halted
      rw [step_of_running bounds m running, step_of_running bounds deep halted, chosen, cell, pointer, steps]
      cases m.instruction? with
      | none => exact agreeing_completed _ _ (deepens_push m deep deepens _) _ _ _ _
      | some instruction =>
          have executed := matched_execute m deep deepens bounds instruction
          dsimp only
          generalize m.execute bounds instruction = left at executed
          generalize deep.execute bounds instruction = right at executed
          cases executed with
          | done after other effects deepens => exact agreeing_completed _ _ deepens _ _ _ _
          | outOfBounds x y after other deepens => exact .faulted _ _ _ deepens

theorem deepens_attempt (bounds : Bounds) : (m.attempt bounds).DeepensTo (deep.attempt bounds) := by
  have agreeing := agreeing_step m deep deepens bounds
  rw [attempt, attempt]
  generalize m.step bounds = left at agreeing
  generalize deep.step bounds = right at agreeing
  cases agreeing with
  | halted _ _ after | stepped _ _ _ after | faulted _ _ _ after => exact after

theorem deepens_attempts (bounds : Bounds) (n : Nat) :
    (m.attempts bounds n).DeepensTo (deep.attempts bounds n) := by
  induction n with
  | zero => exact deepens
  | succ n ih =>
      rw [attempts_succ, attempts_succ]
      exact deepens_attempt _ _ ih bounds

theorem result_of_deepens (bounds : Bounds) : (deep.step bounds).result = (m.step bounds).result := by
  have agreeing := agreeing_step m deep deepens bounds
  generalize m.step bounds = left at agreeing
  generalize deep.step bounds = right at agreeing
  cases agreeing with
  | halted | stepped | faulted => rfl

end Deepening

-- The run that starts from the other stack, step by step beside the run that starts from this one.
theorem empty_stack_is_endless_zeros (bounds : Bounds) (m : Machine) (stack : Stack)
    (same : m.stack.SameButZeros stack) (n : Nat) :
    let one := m.attempts bounds n
    let other := attempts bounds n { m with stack }
    (other.step bounds).result = (one.step bounds).result ∧ other = { one with stack := other.stack } ∧
      one.stack.SameButZeros other.stack := by
  intro one other
  rcases same with deeper | shallower
  · have deepens : one.DeepensTo other := deepens_attempts m { m with stack } ⟨stack, deeper, rfl⟩ bounds n
    refine ⟨result_of_deepens one other deepens bounds, ?_, ?_⟩
    · obtain ⟨_, _, same⟩ := deepens
      rw [same]
    · obtain ⟨_, deeper, same⟩ := deepens
      rw [same]
      exact .inl deeper
  · have deepens : other.DeepensTo one :=
      deepens_attempts { m with stack } m ⟨m.stack, shallower, rfl⟩ bounds n
    refine ⟨(result_of_deepens other one deepens bounds).symm, ?_, ?_⟩
    · obtain ⟨_, _, same⟩ := deepens
      rw [same]
    · obtain ⟨_, deeper, same⟩ := deepens
      rw [same]
      exact .inr deeper

-- Five steps from the empty stack and from two stored zeros. The sixth one reads outside.
def doubling : Machine :=
  load ":\\+99g@" { bounds := .strict }

theorem empty_stack_is_endless_zeros_up_to_a_fault :
    doubling.stack.SameButZeros (.ofBottomFirst [0, 0]) ∧
      let one := doubling.attempts .strict 5
      let other := attempts .strict 5 { doubling with stack := .ofBottomFirst [0, 0] }
      one.Fails .strict ∧ (other.step .strict).result = (one.step .strict).result ∧
        one.stack.topFirst = [9, 9, 0] ∧ other.stack.topFirst = [9, 9, 0, 0] ∧
        one.stack.SameButZeros other.stack := by
  have same : doubling.stack.SameButZeros (.ofBottomFirst [0, 0]) := .inl ⟨2, rfl⟩
  obtain ⟨result, _, zeros⟩ := empty_stack_is_endless_zeros .strict doubling (.ofBottomFirst [0, 0]) same 5
  exact ⟨same, by decide +kernel, result, by decide +kernel, by decide +kernel, zeros⟩

end Machine

end Befunge
