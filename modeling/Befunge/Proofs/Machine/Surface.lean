import Mathlib.Algebra.Group.Nat.Defs
import Befunge.Proofs.Machine.Bounds

/-!
The playfield keeps its shape and the pointer stays on it. Whatever a program stores, every row keeps
the length that it has in the text. The pointer's row is one of the rows, and its column lies below
the length of the longest one; it may lie in the void behind a shorter row.
-/
set_option autoImplicit false

namespace Befunge

namespace Grid

-- The lengths of the rows: all that there is to a playfield but its characters.
def shape (g : Grid) : Array Nat :=
  g.rows.map Array.size

-- A playfield without rows has one place all the same, the one where a program starts.
def Covers (g : Grid) (p : Position) : Prop :=
  p.y < max 1 g.rowCount ∧ p.x < max 1 g.width

theorem shape_set (g : Grid) (x y : Nat) (c : Char) : (g.set x y c).shape = g.shape := by
  apply Array.ext
  · simp [shape, set]
  · intro i _ _
    simp only [shape, set, Array.getElem_map, Array.getElem_modify]
    split
    · rw [Array.size_setIfInBounds]
    · rfl

theorem shape_store (g : Grid) (stored : Option (Position × Char)) : (g.store stored).shape = g.shape := by
  cases stored with
  | none => rfl
  | some write => exact shape_set g write.1.x write.1.y write.2

theorem row_count_of_shape (g h : Grid) (same : g.shape = h.shape) : g.rowCount = h.rowCount := by
  simpa [shape, rowCount] using congrArg Array.size same

theorem row_length_of_shape (g h : Grid) (same : g.shape = h.shape) (y : Nat) :
    g.rowLength y = h.rowLength y := by
  have row : g.shape[y]? = h.shape[y]? := by rw [same]
  rw [shape, shape, Array.getElem?_map, Array.getElem?_map] at row
  rw [rowLength, rowLength, row]

theorem width_eq_max_shape (g : Grid) : g.width = g.shape.toList.max?.getD 0 := by
  have folded : g.width = g.shape.toList.foldl max 0 := by
    rw [width, Array.foldl_toList, shape, Array.foldl_map]
  rw [folded, List.foldl_max, Nat.zero_max]

theorem covers_of_shape (g h : Grid) (same : g.shape = h.shape) (p : Position) :
    g.Covers p ↔ h.Covers p := by
  rw [Covers, Covers, row_count_of_shape g h same, width_eq_max_shape, width_eq_max_shape, same]

theorem row_length_le_width (g : Grid) (y : Nat) : g.rowLength y ≤ g.width := by
  rw [width_eq_max_shape, rowLength, ← Array.getElem?_map, ← shape, ← Array.getElem?_toList]
  cases row : g.shape.toList[y]? with
  | none => exact Nat.zero_le _
  | some length => exact List.le_max?_getD_of_mem (List.mem_of_getElem? row)

theorem origin_of_no_rows (g : Grid) (none : g.rowCount = 0) (p : Position) (covered : g.Covers p) :
    p = .origin := by
  obtain ⟨x, y⟩ := p
  obtain ⟨below, beside⟩ := covered
  have narrow : g.width = 0 := by
    rw [width, Array.eq_empty_of_size_eq_zero none]
    rfl
  rw [none] at below
  rw [narrow] at beside
  dsimp only at below beside
  rw [Position.origin, Position.mk.injEq]
  omega

end Grid

namespace Pointer

-- The coordinate that a move counts up, as it is before the move wraps around.
def raised? (p : Pointer) : Option Nat :=
  match p.direction with
  | .right => some (p.position.x + 1)
  | .down => some (p.position.y + 1)
  | .left | .up => none

theorem wrap_up_lt (length bound n : Nat) (fits : length ≤ bound) : wrapUp length n < max 1 bound := by
  rw [wrapUp]
  split <;> omega

theorem wrap_down_lt (length bound n : Nat) (fits : length ≤ bound) (inside : n < max 1 bound) :
    wrapDown length n < max 1 bound := by
  rw [wrapDown]
  split <;> omega

theorem covers_next (g : Grid) (p : Pointer) (covered : g.Covers p.position) : g.Covers (p.next g) := by
  obtain ⟨below, beside⟩ := covered
  have row := Grid.row_length_le_width g p.position.y
  rw [next]
  cases p.direction with
  | right => exact ⟨below, wrap_up_lt _ _ _ row⟩
  | left => exact ⟨below, wrap_down_lt _ _ _ row beside⟩
  | down => exact ⟨wrap_up_lt _ _ _ (Nat.le_refl _), beside⟩
  | up => exact ⟨wrap_down_lt _ _ _ (Nat.le_refl _) below, beside⟩

theorem raised_le (g : Grid) (p : Pointer) (covered : g.Covers p.position) (k : Nat)
    (raised : p.raised? = some k) : k ≤ max 1 (max g.rowCount g.width) := by
  obtain ⟨below, beside⟩ := covered
  rw [raised?] at raised
  split at raised
  · cases raised; omega
  · cases raised; omega
  · cases raised
  · cases raised

end Pointer

namespace Machine

-- The pointers that a step moves on: a trampoline moves on the one it finds, and whatever was done with
-- the cell, the pointer that it left moves on at last, unless the program has halted.
inductive MovesOn (bounds : Bounds) (m : Machine) : Pointer → Prop where
  | jump (running : m.halted = false) (jumping : m.instruction? = some .trampoline) :
      MovesOn bounds m m.pointer
  | finish (action : Action) (effects : Effects) (after : Machine) (running : m.halted = false)
      (applied : Applied bounds m action effects after) (going : after.halted = false) :
      MovesOn bounds m after.pointer

structure OnSurface (text : Grid) (m : Machine) : Prop where
  shape : m.grid.shape = text.shape
  covered : text.Covers m.pointer.position

theorem position_of_execute (bounds : Bounds) (m after : Machine) (instruction : Instruction)
    (effects : Effects) (done : m.execute bounds instruction = .done after effects) :
    after.pointer.position = m.pointer.position ∨
      instruction = .trampoline ∧ after.pointer = m.pointer.advance m.grid := by
  cases instruction with
  | trampoline =>
      cases done
      exact .inr ⟨rfl, rfl⟩
  | get =>
      obtain ⟨_, v, rfl⟩ := fetch_cell_done bounds m after effects done
      rw [without_top_eq]
      exact .inl rfl
  | put =>
      obtain ⟨_, rfl⟩ := store_cell_done bounds m after effects done
      rw [without_top_eq]
      exact .inl rfl
  | digit | add | sub | mul | div | mod | not | greater | left | right | up | down | random
  | horizontalIf | verticalIf | stringMode | dup | swap | discard | printInt | printChar | halt | nop =>
      cases done
      exact .inl rfl

theorem shape_of_applied (bounds : Bounds) (m after : Machine) (action : Action) (effects : Effects)
    (applied : Applied bounds m action effects after) : after.grid.shape = m.grid.shape := by
  rw [(accounts_of_applied bounds m after action effects applied).grid, Grid.shape_store]

variable (text : Grid)

theorem covers_advance (m : Machine) (on : OnSurface text m) :
    text.Covers (m.pointer.advance m.grid).position := by
  rw [← Grid.covers_of_shape m.grid text on.shape]
  exact Pointer.covers_next m.grid m.pointer ((Grid.covers_of_shape m.grid text on.shape _).2 on.covered)

theorem on_surface_of_applied (bounds : Bounds) (m after : Machine) (action : Action) (effects : Effects)
    (on : OnSurface text m) (applied : Applied bounds m action effects after) : OnSurface text after := by
  refine ⟨(shape_of_applied bounds m after action effects applied).trans on.shape, ?_⟩
  cases applied with
  | push pushing => exact on.covered
  | execute instruction _ _ executing done =>
      rcases position_of_execute bounds m after instruction effects done with still | ⟨_, moved⟩
      · rw [still]
        exact on.covered
      · rw [moved]
        exact covers_advance text m on

theorem on_surface_finish (m : Machine) (on : OnSurface text m) : OnSurface text m.finish := by
  dsimp only [finish]
  split
  · exact ⟨on.shape, on.covered⟩
  · exact ⟨on.shape, covers_advance text m on⟩

theorem on_surface_attempt (bounds : Bounds) (m : Machine) (on : OnSurface text m) :
    OnSurface text (m.attempt bounds) := by
  have came := attempted bounds m
  generalize m.attempt bounds = next at came ⊢
  cases came with
  | halted => exact on
  | applied action effects after running applied =>
      exact on_surface_finish text after (on_surface_of_applied text bounds m after action effects on applied)
  | failed outside =>
      rw [without_top_eq]
      exact ⟨on.shape, on.covered⟩

theorem on_surface_attempts (bounds : Bounds) (n : Nat) (m : Machine) (on : OnSurface text m) :
    OnSurface text (m.attempts bounds n) := by
  induction n with
  | zero => exact on
  | succ n ih =>
      rw [attempts_succ]
      exact on_surface_attempt text bounds _ ih

theorem covers_of_moves_on (bounds : Bounds) (m : Machine) (on : OnSurface text m) (p : Pointer)
    (moves : MovesOn bounds m p) : text.Covers p.position := by
  cases moves with
  | jump running jumping => exact on.covered
  | finish action effects after running applied going =>
      exact (on_surface_of_applied text bounds m after action effects on applied).covered

theorem on_surface_load (source : String) (config : Config) (generator : Generator) :
    OnSurface (Grid.parse source) { load source config with generator } where
  shape := rfl
  covered := ⟨Nat.lt_of_lt_of_le Nat.zero_lt_one (Nat.le_max_left ..),
    Nat.lt_of_lt_of_le Nat.zero_lt_one (Nat.le_max_left ..)⟩

-- The generator is left open, since a program that is given no seed draws from one of any state.
theorem surface_keeps_shape_and_pointer (source : String) (config : Config) (generator : Generator)
    (n : Nat) :
    let text := Grid.parse source
    let m := attempts config.bounds n { load source config with generator }
    m.grid.rowCount = text.rowCount ∧ (∀ y, m.grid.rowLength y = text.rowLength y) ∧
      m.pointer.position.y < max 1 text.rowCount ∧ m.pointer.position.x < max 1 text.width ∧
      (text.rowCount = 0 → m.pointer.position = .origin) ∧
      (text.rowCount < 2 ^ 64 → text.width < 2 ^ 64 →
        ∀ p, MovesOn config.bounds m p → ∀ k, p.raised? = some k → k < 2 ^ 64) := by
  intro text m
  have on : OnSurface text m :=
    on_surface_attempts text config.bounds n _ (on_surface_load source config generator)
  refine ⟨Grid.row_count_of_shape _ _ on.shape, Grid.row_length_of_shape _ _ on.shape,
    on.covered.1, on.covered.2, ?_, ?_⟩
  · intro none
    exact Grid.origin_of_no_rows text none _ on.covered
  · intro rows columns p moves k raised
    have bound := Pointer.raised_le text p (covers_of_moves_on text config.bounds m on p moves) k raised
    omega

-- The program stores a line feed over its first cell and then goes down into an empty row.
def adrift : Machine :=
  attempts .lenient 7 { load "55+00pv\n\n@" {} with generator := .ofSeed 7 }

theorem surface_keeps_shape_and_pointer_in_the_void :
    adrift.grid.get? 0 0 = some '\n' ∧ adrift.grid.rowCount = 3 ∧ adrift.grid.rowLength 0 = 7 ∧
      adrift.grid.rowLength 1 = 0 ∧ adrift.pointer.position = ⟨6, 1⟩ ∧
      adrift.pointer.position.x < max 1 (Grid.parse "55+00pv\n\n@").width ∧
      MovesOn .lenient adrift adrift.pointer ∧ adrift.pointer.raised? = some 2 ∧ 2 < 2 ^ 64 := by
  obtain ⟨rows, lengths, _, column, _, fits⟩ :=
    surface_keeps_shape_and_pointer "55+00pv\n\n@" {} (.ofSeed 7) 7
  have moves : MovesOn .lenient adrift adrift.pointer :=
    .finish (.execute .nop) {} adrift (by decide +kernel)
      (.execute .nop {} adrift (by decide +kernel) rfl) (by decide +kernel)
  have raised : adrift.pointer.raised? = some 2 := by decide +kernel
  refine ⟨by decide +kernel, rows.trans (by decide +kernel), (lengths 0).trans (by decide +kernel),
    (lengths 1).trans (by decide +kernel), by decide +kernel, column, moves, raised, ?_⟩
  exact fits (by decide +kernel) (by decide +kernel) adrift.pointer moves 2 raised

end Machine

end Befunge
