import Mathlib.Algebra.Group.Nat.Defs
import Befunge.Proofs.Machine.Step

/-!
The reports of a run are a journal of it. What the pointer did, what was written and stored, when
string mode was on and when the program halted can all be told from them and from the machine that
the run started with; the machines in between are not needed.
-/
set_option autoImplicit false

namespace Befunge

namespace Report

def rewrite (g : Grid) (reports : List Report) : Grid :=
  reports.foldl (fun g report => g.store report.effects.stored) g

def text (reports : List Report) : String :=
  String.join (reports.map fun report => report.effects.emitted.getD "")

-- String mode after these steps: every quote that they executed turned it over.
def modeAfter (mode : Bool) (reports : List Report) : Bool :=
  reports.foldl (fun mode report => if report.action = .execute .stringMode then !mode else mode) mode

end Report

namespace Machine

-- The reports of so many steps and the machine that they lead to, if all of them succeed.
def journal (bounds : Bounds) : Nat → Machine → Option (List Report × Machine)
  | 0, m => some ([], m)
  | count + 1, m =>
      match m.step bounds with
      | .stepped report next =>
          (journal bounds count next).map fun (reports, last) => (report :: reports, last)
      | .halted _ | .faulted _ _ => none

structure Told (m : Machine) (report : Report) (next : Machine) : Prop where
  number : report.number = m.steps + 1
  position : report.position = m.pointer.position
  cell : report.cell = m.grid.fetch m.pointer.position
  action : report.action =
    if m.stringMode = true ∧ report.cell ≠ '"' then .push (Cell.value report.cell)
    else .execute (Instruction.ofChar report.cell)
  grid : next.grid = m.grid.store report.effects.stored
  output : next.output = m.output ++ report.effects.emitted.getD ""
  stringMode : next.stringMode =
    if report.action = .execute .stringMode then !m.stringMode else m.stringMode
  pointer : next.pointer = ⟨report.next, report.direction⟩
  steps : next.steps = m.steps + 1
  halted : next.halted = true ↔ report.action = .execute .halt

theorem action_of_applied (bounds : Bounds) (m after : Machine) (action : Action) (effects : Effects)
    (applied : Applied bounds m action effects after) :
    action = if m.stringMode = true ∧ m.cell ≠ '"' then .push (Cell.value m.cell)
      else .execute (Instruction.ofChar m.cell) := by
  cases applied with
  | push pushing =>
      rw [instruction?, ite_eq_left_iff] at pushing
      by_cases pushed : m.stringMode = true ∧ m.cell ≠ '"'
      · rw [if_pos pushed]
      · cases pushing pushed
  | execute instruction _ _ executing _ =>
      rw [instruction?] at executing
      by_cases pushed : m.stringMode = true ∧ m.cell ≠ '"'
      · rw [if_pos pushed] at executing
        cases executing
      · rw [if_neg pushed, Option.some.injEq] at executing
        rw [if_neg pushed, executing]

theorem told_of_stepped (bounds : Bounds) (m next : Machine) (report : Report)
    (stepped : m.step bounds = .stepped report next) : Told m report next := by
  obtain ⟨running, action, effects, after, applied, same⟩ :=
    (step_eq_stepped_iff bounds m next report).1 stepped
  obtain ⟨grid, output, stringMode, halted, steps⟩ := accounts_of_applied bounds m after action effects applied
  have finished := finish_eq after
  cases same
  rw [running] at halted
  exact
    { number := by rw [finished, ← steps]
      position := rfl
      cell := rfl
      action := action_of_applied bounds m after action effects applied
      grid := by rw [finished]; exact grid
      output := by rw [finished]; exact output
      stringMode := by rw [finished]; exact stringMode
      pointer := rfl
      steps := by rw [finished, ← steps]
      halted := by rw [finished]; simpa using halted }

theorem journal_succ (bounds : Bounds) (count : Nat) (m last : Machine) (reports : List Report)
    (run : journal bounds (count + 1) m = some (reports, last)) :
    ∃ report next rest, m.step bounds = .stepped report next ∧
      journal bounds count next = some (rest, last) ∧ reports = report :: rest := by
  rw [journal] at run
  split at run
  · rename_i report next stepped
    obtain ⟨⟨rest, end'⟩, onward, same⟩ := Option.map_eq_some_iff.1 run
    cases same
    exact ⟨report, next, rest, stepped, onward, rfl⟩
  · cases run
  · cases run

theorem journal_add (bounds : Bounds) (first rest : Nat) (m last : Machine) (reports : List Report)
    (run : journal bounds (first + rest) m = some (reports, last)) :
    ∃ middle, journal bounds first m = some (reports.take first, middle) ∧
      journal bounds rest middle = some (reports.drop first, last) := by
  induction first generalizing m reports with
  | zero =>
      rw [Nat.zero_add] at run
      exact ⟨m, rfl, run⟩
  | succ first ih =>
      rw [Nat.add_right_comm] at run
      obtain ⟨report, next, later, stepped, onward, rfl⟩ := journal_succ _ _ _ _ _ run
      obtain ⟨middle, before, behind⟩ := ih next later onward
      refine ⟨middle, ?_, behind⟩
      rw [journal, stepped]
      simp only [before, Option.map_some, List.take_succ_cons]

theorem length_of_journal (bounds : Bounds) (count : Nat) (m last : Machine) (reports : List Report)
    (run : journal bounds count m = some (reports, last)) : reports.length = count := by
  induction count generalizing m reports with
  | zero => cases run; rfl
  | succ count ih =>
      obtain ⟨report, next, rest, _, onward, rfl⟩ := journal_succ _ _ _ _ _ run
      rw [List.length_cons, ih next rest onward]

theorem journal_at (bounds : Bounds) (count : Nat) (m last : Machine) (reports : List Report)
    (run : journal bounds count m = some (reports, last)) (i : Nat) (inside : i < reports.length) :
    ∃ middle next, journal bounds i m = some (reports.take i, middle) ∧
      middle.step bounds = .stepped reports[i] next ∧
      journal bounds (count - (i + 1)) next = some (reports.drop (i + 1), last) := by
  have length := length_of_journal _ _ _ _ _ run
  rw [show count = i + (count - (i + 1) + 1) by omega] at run
  obtain ⟨middle, before, behind⟩ := journal_add _ _ _ _ _ _ run
  obtain ⟨report, next, rest, stepped, onward, same⟩ := journal_succ _ _ _ _ _ behind
  rw [List.drop_eq_getElem_cons inside, List.cons.injEq] at same
  obtain ⟨rfl, rfl⟩ := same
  exact ⟨middle, next, before, stepped, onward⟩

theorem journal_succ' (bounds : Bounds) (count : Nat) (m last : Machine) (reports : List Report)
    (run : journal bounds (count + 1) m = some (reports, last)) :
    ∃ middle report, journal bounds count m = some (reports.take count, middle) ∧
      middle.step bounds = .stepped report last ∧ reports.getLast? = some report := by
  obtain ⟨middle, before, behind⟩ := journal_add _ _ _ _ _ _ run
  obtain ⟨report, next, rest, stepped, onward, same⟩ := journal_succ _ _ _ _ _ behind
  cases onward
  refine ⟨middle, report, before, stepped, ?_⟩
  rw [← List.take_append_drop count reports, same, List.getLast?_concat]

structure Summed (m : Machine) (reports : List Report) (last : Machine) : Prop where
  grid : last.grid = Report.rewrite m.grid reports
  output : last.output = m.output ++ Report.text reports
  stringMode : last.stringMode = Report.modeAfter m.stringMode reports
  steps : last.steps = m.steps + UInt64.ofNat reports.length

theorem summed_of_journal (bounds : Bounds) (count : Nat) (m last : Machine) (reports : List Report)
    (run : journal bounds count m = some (reports, last)) : Summed m reports last := by
  induction count generalizing m reports with
  | zero =>
      cases run
      exact ⟨rfl, String.append_empty.symm, rfl, (UInt64.add_zero _).symm⟩
  | succ count ih =>
      obtain ⟨report, next, rest, stepped, onward, rfl⟩ := journal_succ _ _ _ _ _ run
      have told := told_of_stepped bounds m next report stepped
      have later := ih next rest onward
      exact
        { grid := by rw [later.grid, told.grid]; rfl
          output := by
            rw [later.output, told.output, String.append_assoc, Report.text, Report.text, List.map_cons,
              String.join_cons]
          stringMode := by rw [later.stringMode, told.stringMode]; rfl
          steps := by
            rw [later.steps, told.steps, List.length_cons, UInt64.ofNat_add, UInt64.add_assoc,
              UInt64.add_comm 1]
            rfl }

theorem steps_of_journal (bounds : Bounds) (count : Nat) (m last : Machine) (reports : List Report)
    (run : journal bounds count m = some (reports, last)) (fits : m.steps.toNat + count < 2 ^ 64) :
    last.steps.toNat = m.steps.toNat + count := by
  rw [(summed_of_journal _ _ _ _ _ run).steps, length_of_journal _ _ _ _ _ run, UInt64.toNat_add,
    UInt64.toNat_ofNat', Nat.mod_eq_of_lt (show count < 2 ^ 64 by omega), Nat.mod_eq_of_lt fits]

-- A step is taken from each machine on the way, so none of them has halted.
theorem running_of_journal (bounds : Bounds) (count : Nat) (m last : Machine) (reports : List Report)
    (run : journal bounds (count + 1) m = some (reports, last)) : m.halted = false := by
  obtain ⟨report, next, _, stepped, _, _⟩ := journal_succ _ _ _ _ _ run
  exact ((step_eq_stepped_iff bounds m next report).1 stepped).1

theorem run_of_stepped (bounds : Bounds) (n : Nat) (m next : Machine) (report : Report)
    (stepped : m.step bounds = .stepped report next) : run bounds (n + 1) m = run bounds n next := by
  rw [run, stepped]

theorem run_of_halted (bounds : Bounds) (n : Nat) (m : Machine) (halted : m.halted = true) :
    run bounds (n + 1) m = (.halted, m) := by
  rw [run, step, if_pos halted]

theorem run_of_journal (bounds : Bounds) (count rest : Nat) (m last : Machine) (reports : List Report)
    (taken : journal bounds count m = some (reports, last)) :
    run bounds (count + rest) m = run bounds rest last := by
  induction count generalizing m reports with
  | zero =>
      cases taken
      rw [Nat.zero_add]
  | succ count ih =>
      obtain ⟨report, next, later, stepped, onward, _⟩ := journal_succ _ _ _ _ _ taken
      rw [Nat.add_right_comm, run_of_stepped bounds (count + rest) m next report stepped, ih next later onward]

theorem report_of_journal (bounds : Bounds) (count : Nat) (m last : Machine) (reports : List Report)
    (run : journal bounds count m = some (reports, last)) (fits : m.steps.toNat + count < 2 ^ 64)
    (i : Nat) (inside : i < reports.length) :
    reports[i].number.toNat = m.steps.toNat + (i + 1) ∧
      reports[i].cell = (Report.rewrite m.grid (reports.take i)).fetch reports[i].position ∧
      reports[i].action =
        if Report.modeAfter m.stringMode (reports.take i) = true ∧ reports[i].cell ≠ '"' then
          .push (Cell.value reports[i].cell)
        else .execute (Instruction.ofChar reports[i].cell) := by
  have length := length_of_journal _ _ _ _ _ run
  obtain ⟨middle, next, before, stepped, _⟩ := journal_at _ _ _ _ _ run i inside
  have told := told_of_stepped bounds middle next reports[i] stepped
  have summed := summed_of_journal _ _ _ _ _ before
  have steps := steps_of_journal _ _ _ _ _ before (by omega)
  refine ⟨?_, ?_, ?_⟩
  · rw [told.number, UInt64.toNat_add, steps, UInt64.toNat_one, Nat.mod_eq_of_lt (by omega), Nat.add_assoc]
  · rw [told.cell, told.position, summed.grid]
  · rw [told.action, summed.stringMode]

theorem next_of_journal (bounds : Bounds) (count : Nat) (m last : Machine) (reports : List Report)
    (run : journal bounds count m = some (reports, last)) (i : Nat) (inside : i + 1 < reports.length) :
    reports[i + 1].position = reports[i].next ∧ reports[i].action ≠ .execute .halt := by
  have length := length_of_journal _ _ _ _ _ run
  obtain ⟨middle, next, _, stepped, behind⟩ := journal_at _ _ _ _ _ run i (by omega)
  have told := told_of_stepped bounds middle next reports[i] stepped
  rw [show count - (i + 1) = count - (i + 2) + 1 by omega] at behind
  have running := running_of_journal _ _ _ _ _ behind
  obtain ⟨report, after, rest, onward, _, same⟩ := journal_succ _ _ _ _ _ behind
  rw [List.drop_eq_getElem_cons inside, List.cons.injEq] at same
  refine ⟨?_, ?_⟩
  · rw [same.1, (told_of_stepped bounds next after report onward).position, told.pointer]
  · intro halting
    rw [told.halted.2 halting] at running
    cases running

theorem journal_complete (bounds : Bounds) (count : Nat) (m last : Machine) (reports : List Report)
    (taken : 0 < count) (fits : m.steps.toNat + count < 2 ^ 64)
    (run : journal bounds count m = some (reports, last)) :
    reports.length = count ∧
    reports.head?.map (·.position) = some m.pointer.position ∧
    (∀ i, (inside : i + 1 < reports.length) → reports[i + 1].position = reports[i].next) ∧
    (∀ i, (inside : i < reports.length) →
      reports[i].number.toNat = m.steps.toNat + (i + 1) ∧
      reports[i].cell = (Report.rewrite m.grid (reports.take i)).fetch reports[i].position ∧
      reports[i].action =
        if Report.modeAfter m.stringMode (reports.take i) = true ∧ reports[i].cell ≠ '"' then
          .push (Cell.value reports[i].cell)
        else .execute (Instruction.ofChar reports[i].cell)) ∧
    last.output = m.output ++ Report.text reports ∧
    last.grid = Report.rewrite m.grid reports ∧
    reports.getLast?.map (fun report => ⟨report.next, report.direction⟩) = some last.pointer ∧
    last.steps.toNat = m.steps.toNat + count ∧
    (last.halted = true ↔ reports.getLast?.map (·.action) = some (.execute .halt)) ∧
    ∀ i, (inside : i + 1 < reports.length) → reports[i].action ≠ .execute .halt := by
  have length := length_of_journal _ _ _ _ _ run
  have summed := summed_of_journal _ _ _ _ _ run
  have first : reports.head?.map (·.position) = some m.pointer.position := by
    obtain ⟨report, next, rest, stepped, _, rfl⟩ := journal_succ bounds (count - 1) m last reports
      (by rwa [Nat.sub_add_cancel taken])
    rw [List.head?_cons, Option.map_some, (told_of_stepped bounds m next report stepped).position]
  obtain ⟨middle, report, _, stepped, final⟩ := journal_succ' bounds (count - 1) m last reports
    (by rwa [Nat.sub_add_cancel taken])
  have told := told_of_stepped bounds middle last report stepped
  refine ⟨length, first, ?_, ?_, summed.output, summed.grid, ?_, ?_, ?_, ?_⟩
  · exact fun i inside => (next_of_journal _ _ _ _ _ run i inside).1
  · exact fun i inside => report_of_journal _ _ _ _ _ run fits i inside
  · rw [final, Option.map_some, told.pointer]
  · exact steps_of_journal _ _ _ _ _ run fits
  · rw [final, Option.map_some, Option.some.injEq]
    exact told.halted
  · exact fun i inside => (next_of_journal _ _ _ _ _ run i inside).2

-- A program that pushes a digit in string mode, stores it ahead of the pointer, runs it and prints it,
-- and jumps over a cell to its end.
def rewriting : Machine :=
  load "\"5\"60px.#3@" { seed := 0, bounds := .strict }

def rewritten : List Report × Machine :=
  (rewriting.journal .strict 10).getD ([], rewriting)

theorem journal_complete_of_a_program_that_rewrites_itself :
    rewriting.steps.toNat + 10 < 2 ^ 64 ∧
      rewriting.journal .strict 10 = some (rewritten.1, rewritten.2) ∧
      rewritten.1.map (·.cell) = ['"', '5', '"', '6', '0', 'p', '5', '.', '#', '@'] ∧
      rewriting.grid.fetch ⟨6, 0⟩ = 'x' ∧ (Report.rewrite rewriting.grid rewritten.1).fetch ⟨6, 0⟩ = '5' ∧
      rewritten.2.grid = Report.rewrite rewriting.grid rewritten.1 ∧
      rewritten.2.output = rewriting.output ++ Report.text rewritten.1 ∧
      Report.text rewritten.1 = "5" ∧ rewritten.2.halted = true := by
  have run : rewriting.journal .strict 10 = some (rewritten.1, rewritten.2) := by decide +kernel
  obtain ⟨_, _, _, _, output, grid, _, _, halted, _⟩ :=
    journal_complete .strict 10 rewriting rewritten.2 rewritten.1 (by decide) (by decide +kernel) run
  exact ⟨by decide +kernel, run, by decide +kernel, by decide +kernel, by decide +kernel, grid, output,
    by decide +kernel, halted.2 (by decide +kernel)⟩

end Machine

end Befunge
