import Befunge.Proofs.Machine.Journal
import Befunge.Trace.Tracer

/-!
The story of a step: the event of the cell, then one event for what was written, for the cell that was
stored and for the end of the program, each only if there is such a thing to tell. What a run wrote and
what became of its playfield can be read off the stories of its steps.
-/
set_option autoImplicit false

namespace Befunge

namespace Trace

namespace Event

def text? : Event → Option String
  | .output text => some text
  | _ => none

def rewrite (g : Grid) : Event → Grid
  | .cellWrite p c => g.set p.x p.y c
  | _ => g

-- Whether the event tells of a cell that was executed or pushed.
def tellsCell : Event → Bool
  | .step .. | .stringPush .. => true
  | _ => false

end Event

-- What was written, and what became of a playfield, as the events tell.
def written (events : List Event) : String :=
  String.join (events.filterMap Event.text?)

def replay (g : Grid) (events : List Event) : Grid :=
  events.foldl Event.rewrite g

def cellCount (events : List Event) : Nat :=
  events.countP Event.tellsCell

theorem written_append (events later : List Event) :
    written (events ++ later) = written events ++ written later := by
  rw [written, List.filterMap_append, String.join_append, written, written]

theorem replay_append (g : Grid) (events later : List Event) :
    replay g (events ++ later) = replay (replay g events) later :=
  List.foldl_append

theorem cell_count_append (events later : List Event) :
    cellCount (events ++ later) = cellCount events + cellCount later :=
  List.countP_append

theorem read_cell (event : Event) (tells : event.tellsCell = true) :
    written [event] = "" ∧ (∀ g, replay g [event] = g) ∧ cellCount [event] = 1 := by
  cases event with
  | step | stringPush => exact ⟨rfl, fun _ => rfl, rfl⟩
  | output | cellWrite | halt | breakpointHit | fault => cases tells

theorem read_output (text : Option String) :
    let events := (text.map Event.output).toList
    written events = text.getD "" ∧ (∀ g, replay g events = g) ∧ cellCount events = 0 := by
  cases text with
  | none => exact ⟨rfl, fun _ => rfl, rfl⟩
  | some text => exact ⟨by simp [written, Event.text?], fun _ => rfl, rfl⟩

theorem read_cell_write (stored : Option (Position × Char)) :
    let events := (stored.map fun write => Event.cellWrite write.1 write.2).toList
    written events = "" ∧ (∀ g, replay g events = g.store stored) ∧ cellCount events = 0 := by
  cases stored with
  | none => exact ⟨rfl, fun _ => rfl, rfl⟩
  | some write => exact ⟨rfl, fun _ => rfl, rfl⟩

theorem read_halt (p : Prop) [Decidable p] (steps : UInt64) :
    let events := if p then [Event.halt steps] else []
    written events = "" ∧ (∀ g, replay g events = g) ∧ cellCount events = 0 := by
  dsimp only
  split
  · exact ⟨rfl, fun _ => rfl, rfl⟩
  · exact ⟨rfl, fun _ => rfl, rfl⟩

end Trace

namespace Machine

-- The event of the cell under the pointer of `m`, when a step leads from there to `next`.
def cellEvent (m next : Machine) : Trace.Event :=
  match m.instruction? with
  | none => .stringPush m.pointer.position (Cell.value m.cell)
  | some instruction =>
      .step m.pointer.position m.cell instruction next.pointer.direction next.stack.topFirst.length

-- What there is to tell of the step from `m` to `next`.
def story (m : Machine) (report : Report) (next : Machine) : List Trace.Event :=
  [m.cellEvent next] ++ (report.effects.emitted.map .output).toList ++
    (report.effects.stored.map fun write => .cellWrite write.1 write.2).toList ++
    if m.instruction? = some .halt then [.halt next.steps] else []

theorem tells_cell_event (m next : Machine) : (m.cellEvent next).tellsCell = true := by
  rw [cellEvent]
  split
  · rfl
  · rfl

theorem action_of_told (m : Machine) (report : Report) (next : Machine) (told : Told m report next) :
    report.action = match m.instruction? with
      | none => .push (Cell.value m.cell)
      | some instruction => .execute instruction := by
  rw [told.action, told.cell, ← cell, instruction?]
  split <;> rfl

theorem events_of_stepped (bounds : Bounds) (m next : Machine) (report : Report)
    (stepped : m.step bounds = .stepped report next) :
    Tracer.eventsOf report next.stack.size = m.story report next := by
  have told := told_of_stepped bounds m next report stepped
  have direction : report.direction = next.pointer.direction := by rw [told.pointer]
  have number : report.number = next.steps := by rw [told.number, told.steps]
  have action := action_of_told m report next told
  rw [Tracer.eventsOf, story, cellEvent, next.stack.size_eq_length, told.position, direction, number,
    told.cell, ← cell, action]
  cases m.instruction? with
  | none => simp
  | some instruction => simp

theorem read_story (m : Machine) (report : Report) (next : Machine) :
    Trace.written (m.story report next) = report.effects.emitted.getD "" ∧
      (∀ g, Trace.replay g (m.story report next) = g.store report.effects.stored) ∧
      Trace.cellCount (m.story report next) = 1 := by
  obtain ⟨cellText, cellGrid, cellOnce⟩ := Trace.read_cell (m.cellEvent next) (tells_cell_event m next)
  obtain ⟨text, textGrid, textCells⟩ := Trace.read_output report.effects.emitted
  obtain ⟨writeText, write, writeCells⟩ := Trace.read_cell_write report.effects.stored
  obtain ⟨haltText, haltGrid, haltCells⟩ := Trace.read_halt (m.instruction? = some .halt) next.steps
  refine ⟨?_, ?_, ?_⟩
  · simp only [story, Trace.written_append, cellText, text, writeText, haltText, String.empty_append,
      String.append_empty]
  · intro g
    simp only [story, Trace.replay_append, cellGrid, textGrid, write, haltGrid]
  · simp only [story, Trace.cell_count_append, cellOnce, textCells, writeCells, haltCells]

end Machine

end Befunge
