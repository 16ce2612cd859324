import Befunge.Machine.Step

/-!
What a step can do. First the cell is applied: it is pushed, or it is executed and either done or
out of bounds. Whatever is done, the effects tell all that became of grid and output, and the
instruction itself tells all that became of string mode and of the halt.
-/
set_option autoImplicit false

namespace Befunge

namespace Grid

def store (g : Grid) : Option (Position × Char) → Grid
  | some (p, c) => g.set p.x p.y c
  | none => g

def Holds (g : Grid) (x y : Value) : Prop :=
  0 ≤ y.toInt ∧ y.toInt < g.rowCount ∧ 0 ≤ x.toInt ∧ x.toInt < g.rowLength y.toInt.toNat

instance (g : Grid) (x y : Value) : Decidable (g.Holds x y) :=
  inferInstanceAs (Decidable (_ ∧ _))

theorem row_length_of_missing (g : Grid) (y : Nat) (missing : g.rowCount ≤ y) : g.rowLength y = 0 := by
  have none : g.rows[y]? = none := Array.getElem?_eq_none missing
  rw [rowLength, none]
  rfl

theorem get_eq_none_iff (g : Grid) (x y : Nat) : g.get? x y = none ↔ g.rowLength y ≤ x := by
  rw [get?, rowLength]
  cases g.rows[y]? with
  | none => simp
  | some row => simp

theorem locate_eq_some_iff (g : Grid) (x y : Value) (p : Position) :
    g.locate x y = some p ↔ x.toInt = p.x ∧ y.toInt = p.y ∧ g.get? p.x p.y ≠ none := by
  obtain ⟨column, row⟩ := p
  simp only [locate, contains, decide_eq_true_eq, ne_eq, get_eq_none_iff, Nat.not_le]
  constructor
  · intro found
    split at found
    · rename_i inside
      cases found
      exact ⟨(Int.toNat_of_nonneg inside.1).symm, (Int.toNat_of_nonneg inside.2.1).symm, inside.2.2⟩
    · cases found
  · rintro ⟨across, down, inside⟩
    rw [across, down, Int.toNat_natCast, Int.toNat_natCast]
    exact if_pos ⟨Int.natCast_nonneg _, Int.natCast_nonneg _, inside⟩

theorem locate_eq_none_iff (g : Grid) (x y : Value) : g.locate x y = none ↔ ¬ g.Holds x y := by
  have inside : g.contains x.toInt.toNat y.toInt.toNat = true ↔
      x.toInt.toNat < g.rowLength y.toInt.toNat := by simp [contains]
  have there : g.rowCount ≤ y.toInt.toNat → g.rowLength y.toInt.toNat = 0 :=
    row_length_of_missing g y.toInt.toNat
  rw [locate, ite_eq_right_iff, inside, Holds]
  simp only [reduceCtorEq, imp_false]
  omega

end Grid

namespace Machine

-- The value so far below the top of the stack. Below the last one there are zeros.
def operand (n : Nat) (m : Machine) : Value :=
  m.stack.topFirst[n]?.getD 0

-- The machine without so many of the values on top of its stack.
def withoutTop : Nat → Machine → Machine
  | 0, m => m
  | n + 1, m => withoutTop n m.pop.2

-- The instruction that the next step executes, or none if it pushes its cell.
def instruction? (m : Machine) : Option Instruction :=
  if m.stringMode ∧ m.cell ≠ '"' then none else some (Instruction.ofChar m.cell)

-- The quote is the one cell that string mode leaves to be executed.
theorem instruction_eq_some_iff (m : Machine) (i : Instruction) (known : i ≠ .nop)
    (other : i ≠ .stringMode) :
    m.instruction? = some i ↔ m.stringMode = false ∧ m.cell = i.symbol := by
  rw [instruction?, ← Instruction.of_char_eq_iff m.cell i known]
  cases mode : m.stringMode with
  | false => simp
  | true =>
      by_cases quote : m.cell = '"'
      · simp [quote, Instruction.ofChar, other.symm]
      · simp [quote]

-- What the cell under the pointer leads to, before the step is counted and the pointer moves on.
inductive Applied (bounds : Bounds) (m : Machine) : Action → Effects → Machine → Prop where
  | push (pushing : m.instruction? = none) :
      Applied bounds m (.push (Cell.value m.cell)) {} (m.push (Cell.value m.cell))
  | execute (instruction : Instruction) (effects : Effects) (after : Machine)
      (executing : m.instruction? = some instruction)
      (done : m.execute bounds instruction = .done after effects) :
      Applied bounds m (.execute instruction) effects after

-- The effects account for the grid and the output, and the action for both modes.
structure Accounts (m : Machine) (action : Action) (effects : Effects) (after : Machine) : Prop where
  grid : after.grid = m.grid.store effects.stored
  output : after.output = m.output ++ effects.emitted.getD ""
  stringMode : after.stringMode = if action = .execute .stringMode then !m.stringMode else m.stringMode
  halted : after.halted = true ↔ m.halted = true ∨ action = .execute .halt
  steps : after.steps = m.steps

theorem without_top_eq (n : Nat) (m : Machine) :
    m.withoutTop n = { m with stack := (m.withoutTop n).stack } := by
  induction n generalizing m with
  | zero => rfl
  | succ n ih =>
      rw [withoutTop, ih m.pop.2]
      rfl

theorem top_first_without_top (n : Nat) (m : Machine) :
    (m.withoutTop n).stack.topFirst = m.stack.topFirst.drop n := by
  induction n generalizing m with
  | zero => rfl
  | succ n ih =>
      rw [withoutTop, ih m.pop.2, ← List.drop_tail]
      rfl

theorem pop_without_top (n : Nat) (m : Machine) : (m.withoutTop n).pop.1 = m.operand n := by
  change (m.withoutTop n).stack.topFirst.headD 0 = m.operand n
  rw [top_first_without_top, List.headD_eq_head?_getD, List.head?_drop, operand]

theorem execute_random (bounds : Bounds) (m : Machine) :
    m.execute bounds .random =
      .done { m.turn m.generator.direction.1 with generator := m.generator.direction.2 } {} :=
  rfl

-- The row is on top of the stack, the column below it.
theorem fetch_cell_eq (bounds : Bounds) (m : Machine) :
    m.fetchCell bounds =
      match m.grid.locate (m.operand 1) (m.operand 0), bounds with
      | some p, _ => .done ((m.withoutTop 2).push (Cell.value (m.grid.fetch p))) {}
      | none, .lenient => .done ((m.withoutTop 2).push 0) {}
      | none, .strict => .outOfBounds (m.operand 1) (m.operand 0) (m.withoutTop 2) := by
  rw [← pop_without_top 0, ← pop_without_top 1]
  rfl

theorem store_cell_eq (bounds : Bounds) (m : Machine) :
    m.storeCell bounds =
      match m.grid.locate (m.operand 1) (m.operand 0), bounds with
      | some p, _ =>
          let c := Cell.ofValue (m.withoutTop 2).pop.1
          .done { m.withoutTop 3 with grid := m.grid.set p.x p.y c } { stored := some (p, c) }
      | none, .lenient => .done (m.withoutTop 3) {}
      | none, .strict => .outOfBounds (m.operand 1) (m.operand 0) (m.withoutTop 3) := by
  rw [← pop_without_top 0, ← pop_without_top 1]
  rfl

theorem fetch_cell_done (bounds : Bounds) (m after : Machine) (effects : Effects)
    (done : m.fetchCell bounds = .done after effects) :
    effects = {} ∧ ∃ v, after = (m.withoutTop 2).push v := by
  rw [fetch_cell_eq] at done
  split at done
  · cases done
    exact ⟨rfl, _, rfl⟩
  · cases done
    exact ⟨rfl, 0, rfl⟩
  · cases done

theorem store_cell_done (bounds : Bounds) (m after : Machine) (effects : Effects)
    (done : m.storeCell bounds = .done after effects) :
    effects.emitted = none ∧
      after = { m.withoutTop 3 with grid := m.grid.store effects.stored } := by
  rw [store_cell_eq] at done
  split at done
  · cases done
    exact ⟨rfl, rfl⟩
  · cases done
    exact ⟨rfl, rfl⟩
  · cases done

theorem accounts_of_still (m after : Machine) (instruction : Instruction)
    (still : after =
      { m with stack := after.stack, pointer := after.pointer, generator := after.generator })
    (same : instruction ≠ .stringMode) (running : instruction ≠ .halt) :
    Accounts m (.execute instruction) {} after := by
  rw [still]
  exact
    { grid := rfl
      output := String.append_empty.symm
      stringMode := by rw [if_neg (by simpa using same)]
      halted := by simp [running]
      steps := rfl }

theorem accounts_of_write (m : Machine) (text : String) (action : Action)
    (printing : action = .execute .printInt ∨ action = .execute .printChar) :
    Accounts m action { emitted := some text } (m.pop.2.write text) where
  grid := rfl
  output := rfl
  stringMode := by rcases printing with rfl | rfl <;> rfl
  halted := by rcases printing with rfl | rfl <;> simp [write, pop]
  steps := rfl

theorem accounts_of_execute (bounds : Bounds) (m after : Machine) (instruction : Instruction)
    (effects : Effects) (done : m.execute bounds instruction = .done after effects) :
    Accounts m (.execute instruction) effects after := by
  cases instruction with
  | digit | add | sub | mul | div | mod | not | greater | left | right | up | down | random
  | horizontalIf | verticalIf | trampoline | dup | swap | discard | nop =>
      cases done
      exact accounts_of_still m _ _ rfl (by simp) (by simp)
  | stringMode =>
      cases done
      exact ⟨rfl, String.append_empty.symm, rfl, by simp, rfl⟩
  | halt =>
      cases done
      exact ⟨rfl, String.append_empty.symm, rfl, by simp, rfl⟩
  | printInt =>
      cases done
      exact accounts_of_write m _ _ (.inl rfl)
  | printChar =>
      cases done
      exact accounts_of_write m _ _ (.inr rfl)
  | get =>
      obtain ⟨rfl, v, rfl⟩ := fetch_cell_done bounds m after effects done
      exact accounts_of_still m _ _ rfl (by simp) (by simp)
  | put =>
      obtain ⟨silent, rfl⟩ := store_cell_done bounds m after effects done
      exact ⟨rfl, by rw [silent]; exact String.append_empty.symm, rfl, by rw [without_top_eq]; simp, rfl⟩

theorem accounts_of_applied (bounds : Bounds) (m after : Machine) (action : Action) (effects : Effects)
    (applied : Applied bounds m action effects after) : Accounts m action effects after := by
  cases applied with
  | push pushing => exact ⟨rfl, String.append_empty.symm, rfl, by simp [push], rfl⟩
  | execute instruction _ _ executing done => exact accounts_of_execute bounds m after instruction effects done

theorem finish_eq (m : Machine) :
    m.finish = { m with steps := m.steps + 1, pointer := m.finish.pointer } := by
  dsimp only [finish]
  split
  · rfl
  · rfl

theorem step_of_running (bounds : Bounds) (m : Machine) (running : m.halted = false) :
    m.step bounds =
      match m.instruction? with
      | none =>
          completed m.pointer.position m.cell (.push (Cell.value m.cell)) {} (m.push (Cell.value m.cell))
      | some instruction =>
          match m.execute bounds instruction with
          | .done after effects =>
              completed m.pointer.position m.cell (.execute instruction) effects after
          | .outOfBounds x y after =>
              .faulted
                { cause := .outOfBounds x y
                  context := some { position := some m.pointer.position, steps := some m.steps } }
                after := by
  rw [step, if_neg (by simp [running]), instruction?]
  dsimp only
  split
  · rfl
  · rfl

theorem step_eq_stepped_iff (bounds : Bounds) (m next : Machine) (report : Report) :
    m.step bounds = .stepped report next ↔
      m.halted = false ∧ ∃ action effects after, Applied bounds m action effects after ∧
        completed m.pointer.position m.cell action effects after = .stepped report next := by
  cases running : m.halted with
  | true => simp [step, running]
  | false =>
      rw [step_of_running bounds m running]
      constructor
      · intro stepped
        refine ⟨rfl, ?_⟩
        split at stepped
        · rename_i pushing
          exact ⟨_, _, _, .push pushing, stepped⟩
        · rename_i instruction executing
          split at stepped
          · rename_i after effects done
            exact ⟨_, _, _, .execute instruction effects after executing done, stepped⟩
          · cases stepped
      · rintro ⟨_, action, effects, after, applied, stepped⟩
        cases applied with
        | push pushing => rw [pushing]; exact stepped
        | execute instruction _ _ executing done => rw [executing]; simpa only [done] using stepped

theorem attempt_of_halted (bounds : Bounds) (m : Machine) (halted : m.halted = true) :
    m.attempt bounds = m := by
  simp [attempt, step, halted]

theorem halted_of_step (bounds : Bounds) (m after : Machine)
    (outcome : m.step bounds = .halted after) : m.halted = true := by
  unfold step at outcome
  split at outcome
  · assumption
  · dsimp only [completed] at outcome
    split at outcome
    · cases outcome
    · split at outcome
      · cases outcome
      · cases outcome

end Machine

end Befunge
