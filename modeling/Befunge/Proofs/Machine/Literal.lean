import Befunge.Proofs.Machine.Journal
import Befunge.Proofs.Source.Layout

/-!
String literals. A program that is one row made of a text in quotes, a print for each character of it and
the end prints the text backwards: string mode puts the code points on the stack, and each print takes the
last of them that is left.
-/
set_option autoImplicit false

namespace Befunge

namespace Machine

-- The machine is going right through the rest of a row.
structure Facing (g : Grid) (cells : List Char) (mode : Bool) (values : List Value) (written : String)
    (m : Machine) : Prop where
  grid : m.grid = g
  running : m.halted = false
  right : m.pointer.direction = .right
  ahead : g.layout[m.pointer.position.y]?.map (List.drop m.pointer.position.x) = some cells
  stringMode : m.stringMode = mode
  stack : m.stack.topFirst = values
  output : m.output = written

-- So many steps succeed and end at this machine.
def Leads (bounds : Bounds) (n : Nat) (m last : Machine) : Prop :=
  ∃ reports, journal bounds n m = some (reports, last)

section Facing

variable {g : Grid} {rest : List Char} {mode : Bool} {values : List Value} {written : String}
  (bounds : Bounds) (m : Machine)

theorem cell_of_facing (c : Char) (facing : Facing g (c :: rest) mode values written m) : m.cell = c := by
  obtain ⟨row, found, same⟩ := Option.map_eq_some_iff.1 facing.ahead
  rw [cell, Grid.fetch, facing.grid, Grid.get_eq_layout, found, Option.bind_some, ← List.head?_drop, same,
    List.head?_cons, Option.getD_some]

theorem facing_finish (c : Char) (facing : Facing g (c :: rest) mode values written m)
    (more : rest ≠ []) : Facing g rest mode values written m.finish := by
  obtain ⟨row, found, same⟩ := Option.map_eq_some_iff.1 facing.ahead
  have inside : m.pointer.position.x + 1 < row.length := by
    have length := congrArg List.length same
    have some := List.length_pos_iff.2 more
    rw [List.length_drop, List.length_cons] at length
    omega
  have onward : m.finish =
      { m with
        steps := m.steps + 1
        pointer := ⟨⟨m.pointer.position.x + 1, m.pointer.position.y⟩, .right⟩ } := by
    rw [finish, if_neg (by simp [facing.running]), advance, Pointer.advance, Pointer.next]
    simp only [facing.right, facing.grid, Grid.row_length_eq_layout, found, Option.map_some,
      Option.getD_some]
    rw [Pointer.wrapUp, if_pos inside]
  rw [onward]
  exact
    { grid := facing.grid
      running := facing.running
      right := rfl
      ahead := by
        dsimp only
        rw [found, Option.map_some, ← List.tail_drop, same, List.tail_cons]
      stringMode := facing.stringMode
      stack := facing.stack
      output := facing.output }

theorem step_of_literal (c : Char) (facing : Facing g (c :: rest) true values written m) (plain : c ≠ '"')
    (more : rest ≠ []) :
    ∃ report next, m.step bounds = .stepped report next ∧
      Facing g rest true (Cell.value c :: values) written next := by
  have here := cell_of_facing m c facing
  have pushing : m.instruction? = none := by
    rw [instruction?, here, if_pos ⟨facing.stringMode, plain⟩]
  rw [step_of_running bounds m facing.running, pushing, here]
  have pushed : Facing g (c :: rest) true (Cell.value c :: values) written (m.push (Cell.value c)) :=
    { facing with stack := congrArg (Cell.value c :: ·) facing.stack }
  exact ⟨_, _, rfl, facing_finish _ c pushed more⟩

theorem step_of_quote (facing : Facing g ('"' :: rest) mode values written m) (more : rest ≠ []) :
    ∃ report next, m.step bounds = .stepped report next ∧ Facing g rest (!mode) values written next := by
  have here := cell_of_facing m '"' facing
  have executing : m.instruction? = some .stringMode := by
    rw [instruction?, here, if_neg (by simp)]
    rfl
  rw [step_of_running bounds m facing.running, executing]
  have turned : Facing g ('"' :: rest) (!mode) values written { m with stringMode := !m.stringMode } :=
    { facing with stringMode := congrArg (!·) facing.stringMode }
  exact ⟨_, _, rfl, facing_finish _ '"' turned more⟩

theorem step_of_print (c : Char) (facing : Facing g (',' :: rest) false (Cell.value c :: values) written m)
    (more : rest ≠ []) :
    ∃ report next, m.step bounds = .stepped report next ∧
      Facing g rest false values (written ++ String.singleton c) next := by
  have executing : m.instruction? = some .printChar :=
    (instruction_eq_some_iff m .printChar (by decide) (by decide)).2
      ⟨facing.stringMode, cell_of_facing m ',' facing⟩
  rw [step_of_running bounds m facing.running, executing]
  have top : m.pop.1 = Cell.value c := congrArg (List.headD · 0) facing.stack
  have printed : Facing g (',' :: rest) false values (written ++ String.singleton c)
      (m.pop.2.write (String.singleton (Cell.ofValue m.pop.1))) :=
    { facing with
      stack := congrArg List.tail facing.stack
      output := by
        rw [top, Cell.of_value_value]
        exact congrArg (· ++ String.singleton c) facing.output }
  exact ⟨_, _, rfl, facing_finish _ ',' printed more⟩

theorem step_of_end (facing : Facing g ('@' :: rest) false values written m) :
    ∃ report, m.step bounds = .stepped report { m with halted := true, steps := m.steps + 1 } := by
  have executing : m.instruction? = some .halt :=
    (instruction_eq_some_iff m .halt (by decide) (by decide)).2 ⟨facing.stringMode, cell_of_facing m '@' facing⟩
  rw [step_of_running bounds m facing.running, executing]
  exact ⟨_, rfl⟩

end Facing

section Leads

variable {bounds : Bounds} {n k : Nat} {m next last : Machine}

theorem leads_nowhere (bounds : Bounds) (m : Machine) : Leads bounds 0 m m :=
  ⟨[], rfl⟩

theorem leads_of_stepped (report : Report) (stepped : m.step bounds = .stepped report next)
    (onward : Leads bounds n next last) : Leads bounds (n + 1) m last := by
  obtain ⟨reports, run⟩ := onward
  refine ⟨report :: reports, ?_⟩
  rw [journal, stepped]
  simp only [run, Option.map_some]

theorem leads_append (first : Leads bounds n m next) (second : Leads bounds k next last) :
    Leads bounds (n + k) m last := by
  obtain ⟨reports, run⟩ := first
  induction n generalizing m reports with
  | zero =>
      cases run
      rwa [Nat.zero_add]
  | succ n ih =>
      obtain ⟨report, after, later, stepped, onward, _⟩ := journal_succ _ _ _ _ _ run
      rw [Nat.add_right_comm]
      exact leads_of_stepped report stepped (ih later onward)

theorem attempts_of_leads (run : Leads bounds n m last) : m.attempts bounds n = last := by
  obtain ⟨reports, run⟩ := run
  induction n generalizing m reports with
  | zero =>
      cases run
      rfl
  | succ n ih =>
      obtain ⟨report, after, later, stepped, onward, _⟩ := journal_succ _ _ _ _ _ run
      rw [attempts_succ', attempt, stepped]
      exact ih later onward

theorem running_of_leads (run : Leads bounds n m last) (i : Nat) (before : i < n) :
    (m.attempts bounds i).halted = false := by
  obtain ⟨reports, run⟩ := run
  obtain ⟨k, rfl⟩ := Nat.exists_eq_add_of_lt before
  rw [Nat.add_assoc] at run
  obtain ⟨middle, first, behind⟩ := journal_add _ _ _ _ _ _ run
  rw [attempts_of_leads ⟨_, first⟩]
  exact running_of_journal _ _ _ _ _ behind

end Leads

section Phases

variable {g : Grid} {rest : List Char} {written : String} (bounds : Bounds) (more : rest ≠ [])

include more

theorem leads_through_literal (text : List Char) (plain : '"' ∉ text) (values : List Value) (m : Machine)
    (facing : Facing g (text ++ rest) true values written m) :
    ∃ last, Leads bounds text.length m last ∧
      Facing g rest true (text.reverse.map Cell.value ++ values) written last := by
  induction text generalizing m values with
  | nil => exact ⟨m, leads_nowhere bounds m, facing⟩
  | cons c text ih =>
      rw [List.mem_cons, not_or] at plain
      obtain ⟨report, next, stepped, behind⟩ :=
        step_of_literal bounds m c facing (Ne.symm plain.1) (by simp [more])
      obtain ⟨last, onward, faced⟩ := ih plain.2 _ next behind
      refine ⟨last, leads_of_stepped report stepped onward, ?_⟩
      simpa using faced

theorem leads_through_prints (text : List Char) (m : Machine)
    (facing : Facing g (List.replicate text.length ',' ++ rest) false (text.map Cell.value) written m) :
    ∃ last, Leads bounds text.length m last ∧ Facing g rest false [] (written ++ String.ofList text) last := by
  induction text generalizing m written with
  | nil =>
      refine ⟨m, leads_nowhere bounds m, ?_⟩
      simpa using facing
  | cons c text ih =>
      obtain ⟨report, next, stepped, behind⟩ := step_of_print bounds m c facing (by simp [more])
      obtain ⟨last, onward, faced⟩ := ih next behind
      refine ⟨last, leads_of_stepped report stepped onward, ?_⟩
      rwa [String.append_assoc, ← String.ofList_cons] at faced

end Phases

-- A text in quotes, then as many prints as it has characters, then the end.
def recital (text : String) : String :=
  "\"" ++ text ++ "\"" ++ String.ofList (List.replicate text.length ',') ++ "@"

theorem to_list_recital (text : String) :
    (recital text).toList =
      '"' :: (text.toList ++ '"' :: (List.replicate text.toList.length ',' ++ ['@'])) := by
  simp [recital, String.length_toList]

theorem facing_load (text : String) (config : Config) (generator : Generator) (unbroken : '\n' ∉ text.toList)
    (something : text.toList ≠ []) :
    Facing (Grid.parse text) text.toList false [] "" { load text config with generator } where
  grid := rfl
  running := rfl
  right := rfl
  ahead := by
    rw [Grid.layout_parse, List.splitOn_eq_singleton unbroken, Grid.drop_empty_tail_eq,
      List.rdropWhile_singleton, if_neg (by simpa using something)]
    rfl
  stringMode := rfl
  stack := rfl
  output := rfl

-- The first quote, the text, the second quote, the prints; what is left then is the end.
theorem leads_through_recital (text : List Char) (plain : '"' ∉ text) (g : Grid) (bounds : Bounds) (m : Machine)
    (facing : Facing g ('"' :: (text ++ '"' :: (List.replicate text.length ',' ++ ['@']))) false [] "" m) :
    ∃ last, Leads bounds (2 * text.length + 2) m last ∧
      Facing g ['@'] false [] (String.ofList text.reverse) last := by
  obtain ⟨opened, literal, opens, inside⟩ := step_of_quote bounds m facing (by simp)
  obtain ⟨closing, pushes, pushed⟩ := leads_through_literal bounds (by simp) text plain [] literal inside
  obtain ⟨closed, printing, closes, outside⟩ := step_of_quote bounds closing pushed (by simp)
  rw [List.append_nil, ← List.length_reverse] at outside
  obtain ⟨last, prints, printed⟩ := leads_through_prints bounds (by simp) text.reverse printing outside
  have whole := leads_of_stepped opened opens (leads_append pushes (leads_of_stepped closed closes prints))
  rw [List.length_reverse, show text.length + (text.length + 1) + 1 = 2 * text.length + 2 by omega] at whole
  rw [String.empty_append] at printed
  exact ⟨last, whole, printed⟩

theorem literals_round_trip (text : String) (plain : '"' ∉ text.toList) (unbroken : '\n' ∉ text.toList)
    (config : Config) (generator : Generator) :
    let start := { load (recital text) config with generator }
    let n := 2 * text.length + 3
    let last := start.attempts config.bounds n
    (∃ reports, journal config.bounds n start = some (reports, last)) ∧
    (∀ i < n, (start.attempts config.bounds i).halted = false) ∧
    (∀ more, run config.bounds (n + 1 + more) start = (.halted, last)) ∧
    last.halted = true ∧ last.steps = UInt64.ofNat n ∧
    last.output = String.ofList text.toList.reverse ∧ last.stack = .empty ∧ last.stringMode = false ∧
    last.grid = Grid.parse (recital text) := by
  intro start n last
  have cells := to_list_recital text
  have unbroken : '\n' ∉ (recital text).toList := by
    rw [cells]
    simp [unbroken]
  have facing := facing_load (recital text) config generator unbroken (by simp [cells])
  rw [cells] at facing
  obtain ⟨ending, leads, faced⟩ :=
    leads_through_recital text.toList plain _ config.bounds start facing
  obtain ⟨report, stepped⟩ := step_of_end config.bounds ending faced
  have whole := leads_append leads (leads_of_stepped report stepped (leads_nowhere _ _))
  rw [String.length_toList] at whole
  have same : last = { ending with halted := true, steps := ending.steps + 1 } := attempts_of_leads whole
  rw [← same] at whole
  obtain ⟨reports, taken⟩ := whole
  have halted : last.halted = true := by rw [same]
  have steps := (summed_of_journal _ _ _ _ _ taken).steps
  rw [length_of_journal _ _ _ _ _ taken] at steps
  refine ⟨⟨reports, taken⟩, running_of_leads ⟨reports, taken⟩, ?_, halted,
    steps.trans (UInt64.zero_add _), ?_⟩
  · intro more
    rw [Nat.add_assoc, run_of_journal _ _ _ _ _ _ taken, Nat.add_comm 1, run_of_halted _ _ _ halted]
  · rw [same]
    exact ⟨faced.output, Stack.ext faced.stack, faced.stringMode, faced.grid⟩

-- A text with instructions and a carriage return in it.
theorem literals_round_trip_of_instructions_and_more :
    let start := { load (recital "@é\r€😀,") { bounds := .strict } with generator := .ofSeed 7 }
    '"' ∉ "@é\r€😀,".toList ∧ '\n' ∉ "@é\r€😀,".toList ∧
      (start.attempts .strict 14).halted = false ∧ (start.attempts .strict 15).halted = true ∧
      (start.attempts .strict 15).output = ",😀€\ré@" ∧ (start.attempts .strict 15).stack = .empty := by
  have plain : '"' ∉ "@é\r€😀,".toList := by decide +kernel
  have unbroken : '\n' ∉ "@é\r€😀,".toList := by decide +kernel
  obtain ⟨_, running, _, halted, _, output, stack, _⟩ :=
    literals_round_trip "@é\r€😀," plain unbroken { bounds := .strict } (.ofSeed 7)
  exact ⟨plain, unbroken, running 14 (by decide +kernel), halted, output.trans (by decide +kernel), stack⟩

end Machine

end Befunge
