import Befunge.Proofs.Machine.Journal
import Befunge.Proofs.Machine.Surface

/-!
The path of the pointer. After every step but the last one the pointer is one move on from where it was,
in the direction that the step reports, or two moves on behind a trampoline. The direction changes, or the
move is another one than straight on, for the instructions of flow only, and for each of them at times.
-/
set_option autoImplicit false

namespace Befunge

def Action.isFlow : Action → Bool
  | .push _ => false
  | .execute instruction => instruction.isFlow

namespace Pointer

theorem advance_of_shape (g h : Grid) (same : g.shape = h.shape) (p : Pointer) : p.advance g = p.advance h := by
  rw [advance, advance, next, next, Grid.row_length_of_shape g h same, Grid.row_count_of_shape g h same]

end Pointer

namespace Machine

-- The next step succeeds with such a report.
def Reports (bounds : Bounds) (m : Machine) (holds : Report → Prop) : Prop :=
  ∃ report next, m.step bounds = .stepped report next ∧ holds report

instance (bounds : Bounds) (m : Machine) (holds : Report → Prop) [DecidablePred holds] :
    Decidable (m.Reports bounds holds) :=
  match outcome : m.step bounds with
  | .stepped report next =>
      decidable_of_iff (holds report)
        ⟨fun held => ⟨report, next, outcome, held⟩,
          fun ⟨_, _, stepped, held⟩ => by cases outcome.symm.trans stepped; exact held⟩
  | .halted _ => isFalse fun ⟨_, _, stepped, _⟩ => by cases outcome.symm.trans stepped
  | .faulted _ _ => isFalse fun ⟨_, _, stepped, _⟩ => by cases outcome.symm.trans stepped

-- The next step executes this instruction, and the pointer does not just go straight on.
def Swerves (bounds : Bounds) (instruction : Instruction) (m : Machine) : Prop :=
  m.stringMode = false ∧ m.Reports bounds fun report =>
    report.action = .execute instruction ∧
      (report.direction ≠ m.pointer.direction ∨ report.next ≠ (m.pointer.advance m.grid).position)

instance (bounds : Bounds) (instruction : Instruction) (m : Machine) :
    Decidable (m.Swerves bounds instruction) :=
  inferInstanceAs (Decidable (_ ∧ _))

theorem pointer_of_execute (bounds : Bounds) (m after : Machine) (instruction : Instruction)
    (effects : Effects) (straight : instruction.isFlow = false)
    (done : m.execute bounds instruction = .done after effects) : after.pointer = m.pointer := by
  cases instruction with
  | left | right | up | down | random | horizontalIf | verticalIf | trampoline | halt => cases straight
  | get =>
      obtain ⟨_, v, rfl⟩ := fetch_cell_done bounds m after effects done
      rw [without_top_eq]
      rfl
  | put =>
      obtain ⟨_, rfl⟩ := store_cell_done bounds m after effects done
      rw [without_top_eq]
  | digit | add | sub | mul | div | mod | not | greater | stringMode | dup | swap | discard | printInt
  | printChar | nop =>
      cases done
      rfl

-- The pointer as a cell leaves it, before it moves on at last.
theorem pointer_of_applied (bounds : Bounds) (m after : Machine) (action : Action) (effects : Effects)
    (applied : Applied bounds m action effects after) :
    (action.isFlow = false → after.pointer = m.pointer) ∧
      if action = .execute .trampoline then after.pointer = m.pointer.advance m.grid
      else after.pointer.position = m.pointer.position := by
  cases applied with
  | push pushing => exact ⟨fun _ => rfl, rfl⟩
  | execute instruction _ _ executing done =>
      refine ⟨fun straight => pointer_of_execute bounds m after instruction effects straight done, ?_⟩
      by_cases jumping : instruction = .trampoline
      · subst jumping
        cases done
        rw [if_pos rfl]
        rfl
      · rw [if_neg (by simpa using jumping)]
        exact (position_of_execute bounds m after instruction effects done).resolve_right fun jumped =>
          jumping jumped.1

-- Cells may have changed since the pointer came, but how it moves depends on the shape only.
theorem pointer_of_finish (bounds : Bounds) (m after : Machine) (action : Action) (effects : Effects)
    (applied : Applied bounds m action effects after) (running : m.halted = false)
    (going : action ≠ .execute .halt) : after.finish.pointer = after.pointer.advance m.grid := by
  have onward : ¬ after.halted = true := by
    rw [(accounts_of_applied bounds m after action effects applied).halted, running]
    simpa using going
  rw [finish, if_neg onward, advance,
    Pointer.advance_of_shape _ _ (shape_of_applied bounds m after action effects applied)]

theorem path_of_stepped (bounds : Bounds) (m next : Machine) (report : Report)
    (stepped : m.step bounds = .stepped report next) (going : report.action ≠ .execute .halt) :
    ∃ p : Pointer, report.direction = p.direction ∧ report.next = (p.advance m.grid).position ∧
      (report.action.isFlow = false → p = m.pointer) ∧
      if report.action = .execute .trampoline then p = m.pointer.advance m.grid
      else p.position = m.pointer.position := by
  obtain ⟨running, action, effects, after, applied, same⟩ :=
    (step_eq_stepped_iff bounds m next report).1 stepped
  cases same
  have path := pointer_of_finish bounds m after action effects applied running going
  obtain ⟨straight, place⟩ := pointer_of_applied bounds m after action effects applied
  refine ⟨after.pointer, ?_, ?_, straight, place⟩
  · rw [path]
    rfl
  · rw [path]

-- For each instruction of flow a program, and the number of steps after which it swerves.
def detour : Instruction → String × Nat
  | .left => ("<", 0)
  | .right => ("v\n>", 1)
  | .up => ("^", 0)
  | .down => ("v", 0)
  | .random => ("?", 0)
  | .horizontalIf => ("1_", 1)
  | .verticalIf => ("|", 0)
  | .trampoline => ("#12", 0)
  | .halt => ("@1", 0)
  | _ => ("", 0)

theorem swerves_at_detour (bounds : Bounds) (instruction : Instruction) (flow : instruction.isFlow = true) :
    (under bounds (detour instruction).1 7 (detour instruction).2).Swerves bounds instruction := by
  cases instruction with
  | left | right | up | down | random | horizontalIf | verticalIf | trampoline | halt =>
      cases bounds with
      | lenient => decide +kernel
      | strict => decide +kernel
  | digit | add | sub | mul | div | mod | not | greater | stringMode | dup | swap | discard | printInt
  | printChar | put | get | nop => cases flow

theorem path_follows_flow :
    (∀ bounds (m next : Machine) report, m.step bounds = .stepped report next →
      (∀ p : Pointer, p.advance next.grid = p.advance m.grid) ∧
      (report.action.isFlow = false →
        report.direction = m.pointer.direction ∧
        report.next = (Pointer.advance m.grid ⟨report.position, m.pointer.direction⟩).position) ∧
      (report.action ≠ .execute .halt →
        if report.action = .execute .trampoline then
          report.direction = m.pointer.direction ∧
          report.next = (Pointer.advance m.grid
            (Pointer.advance m.grid ⟨report.position, report.direction⟩)).position
        else report.next = (Pointer.advance m.grid ⟨report.position, report.direction⟩).position)) ∧
    (∀ bounds (instruction : Instruction), instruction.isFlow = true →
      ∃ source seed n, (under bounds source seed n).Swerves bounds instruction) := by
  refine ⟨?_, fun bounds instruction flow => ⟨_, _, _, swerves_at_detour bounds instruction flow⟩⟩
  intro bounds m next report stepped
  have told := told_of_stepped bounds m next report stepped
  have shape : next.grid.shape = m.grid.shape := by rw [told.grid, Grid.shape_store]
  refine ⟨Pointer.advance_of_shape _ _ shape, ?_, ?_⟩
  · intro straight
    obtain ⟨p, direction, place, same, _⟩ := path_of_stepped bounds m next report stepped
      (by intro halting; rw [halting] at straight; cases straight)
    rw [direction, place, same straight, told.position]
    exact ⟨rfl, rfl⟩
  · intro going
    obtain ⟨p, direction, place, _, came⟩ := path_of_stepped bounds m next report stepped going
    rw [direction, place, told.position]
    split at came
    · rename_i jumped
      rw [if_pos jumped, came]
      exact ⟨rfl, rfl⟩
    · rename_i grounded
      rw [if_neg grounded, ← came]

-- The trampoline stands at the end of its row: the jump goes over the first cell, back onto it.
def bouncing : Nat → Machine :=
  under .strict "1#" 7

theorem path_follows_flow_over_the_edge :
    (bouncing 0).Reports .strict (fun report => report.action.isFlow = false ∧
      report.direction = .right ∧ report.next = ⟨1, 0⟩) ∧
    (bouncing 1).Reports .strict (fun report => report.action ≠ .execute .halt ∧
      report.action = .execute .trampoline ∧ report.direction = .right ∧ report.next = ⟨1, 0⟩) ∧
    Instruction.isFlow .random = true ∧
      ∃ source seed n, (under .strict source seed n).Swerves .strict .random := by
  have digit : (bouncing 0).Reports .strict fun report =>
      report.action.isFlow = false ∧ report.position = .origin := by decide +kernel
  have jump : (bouncing 1).Reports .strict fun report =>
      report.action = .execute .trampoline ∧ report.position = ⟨1, 0⟩ := by decide +kernel
  obtain ⟨paths, swerving⟩ := path_follows_flow
  obtain ⟨pushed, after, stepped, straight, origin⟩ := digit
  obtain ⟨jumped, last, bounced, action, edge⟩ := jump
  obtain ⟨_, onward, _⟩ := paths .strict _ after pushed stepped
  obtain ⟨_, _, twice⟩ := paths .strict _ last jumped bounced
  obtain ⟨right, second⟩ := onward straight
  have going : jumped.action ≠ .execute .halt := by simp [action]
  have path := twice going
  rw [if_pos action] at path
  obtain ⟨kept, place⟩ := path
  have east : jumped.direction = .right := kept.trans (by decide +kernel)
  rw [origin] at second
  rw [edge, east] at place
  exact
    ⟨⟨pushed, after, stepped, straight, right.trans (by decide +kernel), second.trans (by decide +kernel)⟩,
      ⟨jumped, last, bounced, going, action, east, place.trans (by decide +kernel)⟩,
      rfl, swerving .strict .random rfl⟩

end Machine

end Befunge
