import Befunge.Proofs.Machine.Bounds
import Befunge.Proofs.Machine.Journal

/-!
The playfield is a memory. A cell holds what the last `p` for its place stored there, or what the text of
the program has there if there was none; a `g` for the place reads just that, and the pointer finds just
that when it comes by. What is stored is the character of a value, and reading it gives the value back if
there is such a character.
-/
set_option autoImplicit false

namespace Befunge

namespace Cell

-- The values that are code points of characters.
def IsScalar (v : Value) : Prop :=
  0 ≤ v.toInt ∧ v.toInt ≤ 0x10FFFF ∧ ¬ (0xD800 ≤ v.toInt ∧ v.toInt ≤ 0xDFFF)

instance (v : Value) : Decidable (IsScalar v) :=
  inferInstanceAs (Decidable (_ ∧ _ ∧ ¬ _))

theorem is_scalar_iff (v : Value) : IsScalar v ↔ 0 ≤ v.toInt ∧ v.toInt.toNat.isValidChar := by
  rw [IsScalar, Nat.isValidChar]
  omega

theorem value_of_scalar (v : Value) (scalar : IsScalar v) : value (ofValue v) = v := by
  obtain ⟨nonneg, valid⟩ := (is_scalar_iff v).1 scalar
  rw [ofValue, if_pos ⟨nonneg, valid⟩, ← Int64.toInt_inj, to_int_value, code_of_nat _ valid,
    Int.toNat_of_nonneg nonneg]

theorem value_of_no_scalar (v : Value) (none : ¬ IsScalar v) : value (ofValue v) = 65533 := by
  rw [is_scalar_iff] at none
  rw [ofValue, if_neg none]
  rfl

end Cell

namespace Grid

theorem get_set_here (g : Grid) (p : Position) (c : Char) (there : g.get? p.x p.y ≠ none) :
    (g.set p.x p.y c).get? p.x p.y = some c := by
  rw [get?] at there
  rw [set, get?, Array.getElem?_modify, if_pos rfl]
  cases row : g.rows[p.y]? with
  | none => simp [row] at there
  | some cells =>
      rw [row, Option.bind_some, ne_eq, Array.getElem?_eq_none_iff, Nat.not_le] at there
      simp [there]

theorem get_set_elsewhere (g : Grid) (p q : Position) (c : Char) (apart : q ≠ p) :
    (g.set p.x p.y c).get? q.x q.y = g.get? q.x q.y := by
  rw [set, get?, get?, Array.getElem?_modify]
  by_cases row : p.y = q.y
  · have column : p.x ≠ q.x := fun same => apart (by cases p; cases q; simp_all)
    rw [if_pos row]
    cases g.rows[q.y]? with
    | none => rfl
    | some cells => simp [Array.getElem?_setIfInBounds_ne column]
  · rw [if_neg row]

end Grid

namespace Machine

-- The row on top of the stack and the column below it are those of this place.
def Addresses (m : Machine) (p : Position) : Prop :=
  (m.operand 1).toInt = p.x ∧ (m.operand 0).toInt = p.y

instance (m : Machine) (p : Position) : Decidable (m.Addresses p) :=
  inferInstanceAs (Decidable (_ ∧ _))

def ReadsAt (p : Position) (m : Machine) : Prop :=
  m.halted = false ∧ m.instruction? = some .get ∧ m.Addresses p

def StoresAt (p : Position) (m : Machine) : Prop :=
  m.halted = false ∧ m.instruction? = some .put ∧ m.Addresses p

instance (p : Position) (m : Machine) : Decidable (m.ReadsAt p) :=
  inferInstanceAs (Decidable (_ ∧ _ ∧ _))

instance (p : Position) (m : Machine) : Decidable (m.StoresAt p) :=
  inferInstanceAs (Decidable (_ ∧ _ ∧ _))

-- What the next step stores and where: only a `p` stores, and only in a cell that there is.
def pending? (m : Machine) : Option (Position × Char) :=
  if m.halted = false ∧ m.instruction? = some .put then
    (m.grid.locate (m.operand 1) (m.operand 0)).map fun p => (p, Cell.ofValue (m.operand 2))
  else none

-- The value that the last `p` for this place popped in so many steps.
def lastStored (bounds : Bounds) (p : Position) (m : Machine) : Nat → Option Value
  | 0 => none
  | n + 1 =>
      if (m.attempts bounds n).StoresAt p then some ((m.attempts bounds n).operand 2)
      else lastStored bounds p m n

theorem locate_of_addresses (m : Machine) (p : Position) (there : m.grid.get? p.x p.y ≠ none)
    (addressed : m.Addresses p) : m.grid.locate (m.operand 1) (m.operand 0) = some p :=
  (Grid.locate_eq_some_iff ..).2 ⟨addressed.1, addressed.2, there⟩

theorem stored_of_execute (bounds : Bounds) (m after : Machine) (instruction : Instruction)
    (effects : Effects) (done : m.execute bounds instruction = .done after effects) :
    effects.stored =
      if instruction = .put then
        (m.grid.locate (m.operand 1) (m.operand 0)).map fun p => (p, Cell.ofValue (m.operand 2))
      else none := by
  cases instruction with
  | put =>
      rw [execute, store_cell_eq, pop_without_top] at done
      rw [if_pos rfl]
      split at done
      · rename_i located
        cases done
        rw [located]
        rfl
      · rename_i located
        cases done
        rw [located]
        rfl
      · cases done
  | get => rw [(fetch_cell_done bounds m after effects done).1, if_neg (by simp)]
  | digit | add | sub | mul | div | mod | not | greater | left | right | up | down | random
  | horizontalIf | verticalIf | trampoline | stringMode | dup | swap | discard | printInt | printChar
  | halt | nop =>
      cases done
      rfl

theorem pending_eq_some_iff (m : Machine) (p : Position) (c : Char) :
    m.pending? = some (p, c) ↔
      m.StoresAt p ∧ m.grid.get? p.x p.y ≠ none ∧ Cell.ofValue (m.operand 2) = c := by
  rw [pending?]
  constructor
  · intro pending
    split at pending
    · rename_i storing
      obtain ⟨q, located, same⟩ := Option.map_eq_some_iff.1 pending
      obtain ⟨rfl, written⟩ := Prod.mk.inj same
      obtain ⟨across, down, there⟩ := (Grid.locate_eq_some_iff ..).1 located
      exact ⟨⟨storing.1, storing.2, across, down⟩, there, written⟩
    · cases pending
  · rintro ⟨⟨running, executing, addressed⟩, there, rfl⟩
    rw [if_pos ⟨running, executing⟩, locate_of_addresses m p there addressed, Option.map_some]

-- One case for each way a step can end. One that fails is for no cell, and it stores nothing.
theorem grid_attempt (bounds : Bounds) (m : Machine) :
    (m.attempt bounds).grid = m.grid.store m.pending? := by
  have came := attempted bounds m
  generalize m.attempt bounds = next at came ⊢
  cases came with
  | halted stopped =>
      rw [pending?, if_neg (by simp [stopped])]
      rfl
  | failed outside =>
      rw [pending?, (Grid.locate_eq_none_iff ..).2 outside.2.2, Option.map_none, ite_self, without_top_eq]
      rfl
  | applied action effects after running applied =>
      rw [finish_eq, (accounts_of_applied bounds m after action effects applied).grid]
      cases applied with
      | push pushing => rw [pending?, if_neg (by simp [pushing])]
      | execute instruction _ _ executing done =>
          rw [stored_of_execute bounds m after instruction effects done, pending?, executing]
          simp only [running, true_and, Option.some.injEq]

theorem get_attempt_here (bounds : Bounds) (m : Machine) (p : Position) (there : m.grid.get? p.x p.y ≠ none)
    (storing : m.StoresAt p) :
    (m.attempt bounds).grid.get? p.x p.y = some (Cell.ofValue (m.operand 2)) := by
  rw [grid_attempt, (pending_eq_some_iff ..).2 ⟨storing, there, rfl⟩]
  exact Grid.get_set_here m.grid p _ there

theorem get_attempt_elsewhere (bounds : Bounds) (m : Machine) (p : Position) (elsewhere : ¬ m.StoresAt p) :
    (m.attempt bounds).grid.get? p.x p.y = m.grid.get? p.x p.y := by
  rw [grid_attempt]
  cases pending : m.pending? with
  | none => rfl
  | some write =>
      obtain ⟨q, c⟩ := write
      have apart : p ≠ q := by
        rintro rfl
        exact elsewhere ((pending_eq_some_iff ..).1 pending).1
      exact Grid.get_set_elsewhere m.grid q p c apart

theorem grid_attempt_of_outside (bounds : Bounds) (m : Machine)
    (outside : ¬ m.grid.Holds (m.operand 1) (m.operand 0)) : (m.attempt bounds).grid = m.grid := by
  rw [grid_attempt, pending?, (Grid.locate_eq_none_iff ..).2 outside, Option.map_none, ite_self]
  rfl

section Run

variable (bounds : Bounds) (m : Machine) (p : Position) (c : Char) (held : m.grid.get? p.x p.y = some c)

include held

-- Induction on the steps: the last of them stores at the place, or the cell is as it was before it.
theorem get_attempts (n : Nat) :
    (m.attempts bounds n).grid.get? p.x p.y = some ((m.lastStored bounds p n).elim c Cell.ofValue) := by
  induction n with
  | zero => exact held
  | succ n ih =>
      rw [attempts_succ, lastStored]
      by_cases storing : (m.attempts bounds n).StoresAt p
      · rw [get_attempt_here bounds _ p (by simp [ih]) storing, if_pos storing, Option.elim_some]
      · rw [get_attempt_elsewhere bounds _ p storing, if_neg storing, ih]

theorem step_of_reads (reading : m.ReadsAt p) :
    ∃ report next, m.step bounds = .stepped report next ∧ report.action = .execute .get ∧
      next.stack.topFirst = Cell.value c :: m.stack.topFirst.drop 2 := by
  obtain ⟨running, executing, addressed⟩ := reading
  have located := locate_of_addresses m p (by simp [held]) addressed
  have found : m.grid.fetch p = c := by rw [Grid.fetch, held, Option.getD_some]
  rw [step_of_running bounds m running, executing]
  simp only [execute, fetch_cell_eq, located, found]
  refine ⟨_, _, rfl, rfl, ?_⟩
  rw [finish_eq, ← top_first_without_top]
  rfl

theorem step_of_stores (storing : m.StoresAt p) :
    ∃ report, m.step bounds = .stepped report (m.attempt bounds) ∧ report.action = .execute .put ∧
      (m.attempt bounds).grid.get? p.x p.y = some (Cell.ofValue (m.operand 2)) := by
  have written := get_attempt_here bounds m p (by simp [held]) storing
  obtain ⟨running, executing, addressed⟩ := storing
  have located := locate_of_addresses m p (by simp [held]) addressed
  rw [attempt, step_of_running bounds m running, executing] at written ⊢
  simp only [execute, store_cell_eq, located] at written ⊢
  exact ⟨_, rfl, rfl, written⟩

theorem step_of_arrival (running : m.halted = false) (arrived : m.pointer.position = p) :
    (m.stringMode = true ∧ c ≠ '"' →
      ∃ report next, m.step bounds = .stepped report next ∧ report.cell = c ∧
        report.action = .push (Cell.value c) ∧ next.stack.topFirst = Cell.value c :: m.stack.topFirst) ∧
    (¬ (m.stringMode = true ∧ c ≠ '"') →
      m.instruction? = some (Instruction.ofChar c) ∧
        ∀ report next, m.step bounds = .stepped report next →
          report.cell = c ∧ report.action = .execute (Instruction.ofChar c)) := by
  have found : m.cell = c := by rw [cell, Grid.fetch, arrived, held, Option.getD_some]
  have chosen : m.instruction? = if m.stringMode = true ∧ c ≠ '"' then none else some (.ofChar c) := by
    rw [instruction?, found]
  constructor
  · intro pushed
    rw [if_pos pushed] at chosen
    rw [step_of_running bounds m running, chosen, found]
    refine ⟨_, _, rfl, rfl, rfl, ?_⟩
    rw [finish_eq]
    rfl
  · intro executed
    rw [if_neg executed] at chosen
    refine ⟨chosen, ?_⟩
    intro report next stepped
    have told := told_of_stepped bounds m next report stepped
    have same : report.cell = c := told.cell.trans found
    rw [told.action, same, if_neg executed]
    exact ⟨rfl, rfl⟩

end Run

-- The machine may be any that a run comes to, also behind steps that failed.
theorem grid_is_memory (source : String) (config : Config) (generator : Generator) (n : Nat)
    (p : Position) (original : Char) (inside : (Grid.parse source).get? p.x p.y = some original) :
    let start := { load source config with generator }
    let m := start.attempts config.bounds n
    let c := (start.lastStored config.bounds p n).elim original Cell.ofValue
    m.grid.get? p.x p.y = some c ∧
    (m.ReadsAt p → ∃ report next, m.step config.bounds = .stepped report next ∧
      report.action = .execute .get ∧ next.stack.topFirst = Cell.value c :: m.stack.topFirst.drop 2) ∧
    (∀ v, Cell.value (Cell.ofValue v) = if Cell.IsScalar v then v else 65533) ∧
    (m.halted = false → m.pointer.position = p →
      (m.stringMode = true ∧ c ≠ '"' →
        ∃ report next, m.step config.bounds = .stepped report next ∧ report.cell = c ∧
          report.action = .push (Cell.value c) ∧ next.stack.topFirst = Cell.value c :: m.stack.topFirst) ∧
      (¬ (m.stringMode = true ∧ c ≠ '"') →
        m.instruction? = some (Instruction.ofChar c) ∧
          ∀ report next, m.step config.bounds = .stepped report next →
            report.cell = c ∧ report.action = .execute (Instruction.ofChar c))) ∧
    (m.StoresAt p → ∃ report, m.step config.bounds = .stepped report (m.attempt config.bounds) ∧
      report.action = .execute .put ∧
      (m.attempt config.bounds).grid.get? p.x p.y = some (Cell.ofValue (m.operand 2))) ∧
    (∀ q, ¬ m.StoresAt q → (m.attempt config.bounds).grid.get? q.x q.y = m.grid.get? q.x q.y) ∧
    (m.instruction? = some .put → ¬ m.grid.Holds (m.operand 1) (m.operand 0) →
      (m.attempt config.bounds).grid = m.grid) := by
  intro start m c
  have held : m.grid.get? p.x p.y = some c := get_attempts config.bounds start p original inside n
  refine ⟨held, step_of_reads config.bounds m p c held, ?_, step_of_arrival config.bounds m p c held,
    step_of_stores config.bounds m p c held, get_attempt_elsewhere config.bounds m,
    fun _ => grid_attempt_of_outside config.bounds m⟩
  intro v
  split
  · exact Cell.value_of_scalar v ‹_›
  · exact Cell.value_of_no_scalar v ‹_›

-- The program stores -1, which is no code point, over its `.` and reads it back; then the pointer comes by.
def forgetting : Machine :=
  { load "01-90p90g.@" { bounds := .strict } with generator := .ofSeed 7 }

theorem grid_is_memory_of_a_value_without_character :
    (Grid.parse "01-90p90g.@").get? 9 0 = some '.' ∧
      (forgetting.attempts .strict 5).StoresAt ⟨9, 0⟩ ∧
      forgetting.lastStored .strict ⟨9, 0⟩ 8 = some (-1) ∧
      (forgetting.attempts .strict 8).ReadsAt ⟨9, 0⟩ ∧
      (∃ report next, (forgetting.attempts .strict 8).step .strict = .stepped report next ∧
        next.stack.topFirst = [65533]) ∧
      (forgetting.attempts .strict 9).pointer.position = ⟨9, 0⟩ ∧
      (forgetting.attempts .strict 9).instruction? = some .nop := by
  have inside : (Grid.parse "01-90p90g.@").get? 9 0 = some '.' := by decide +kernel
  have reading : (forgetting.attempts .strict 8).ReadsAt ⟨9, 0⟩ := by decide +kernel
  have arrived : (forgetting.attempts .strict 9).pointer.position = ⟨9, 0⟩ := by decide +kernel
  obtain ⟨_, read, _⟩ :=
    grid_is_memory "01-90p90g.@" { bounds := .strict } (.ofSeed 7) 8 ⟨9, 0⟩ '.' inside
  obtain ⟨_, _, _, arrival, _⟩ :=
    grid_is_memory "01-90p90g.@" { bounds := .strict } (.ofSeed 7) 9 ⟨9, 0⟩ '.' inside
  obtain ⟨report, next, stepped, _, top⟩ := read reading
  have executed := (arrival (by decide +kernel) arrived).2 (by decide +kernel)
  exact ⟨inside, by decide +kernel, by decide +kernel, reading,
    ⟨report, next, stepped, top.trans (by decide +kernel)⟩, arrived, executed.1.trans (by decide +kernel)⟩

end Machine

end Befunge
