import Mathlib.Algebra.Order.Group.Int
import Mathlib.Logic.Function.Iterate
import Befunge.Proofs.Machine.Step

/-!
The playfield is a torus, of a kind: each row is a ring of its own length, and each column one of the
number of rows. On a ring so many moves are one addition, or subtraction, modulo its size. In the void
behind a row a move to the left is no different, until it comes back into the row, and the first one to
the right goes to the start of the row.
-/
set_option autoImplicit false

namespace Befunge

namespace Direction

def opposite : Direction → Direction
  | .up => .down
  | .left => .right
  | .down => .up
  | .right => .left

end Direction

namespace Pointer

section Ring

variable (length n k : Nat)

theorem wrap_up_eq (inside : n < length) : wrapUp length n = (n + 1) % length := by
  rw [wrapUp]
  by_cases before : n + 1 < length
  · rw [if_pos before, Nat.mod_eq_of_lt before]
  · have last : n + 1 = length := by omega
    rw [if_neg before, last, Nat.mod_self]

theorem wrap_down_eq (inside : n < length) : (wrapDown length n : Int) = (n - 1) % length := by
  rw [wrapDown]
  by_cases first : n = 0
  · subst first
    rw [if_pos rfl, ← Int.add_emod_right, Int.emod_eq_of_lt (by omega) (by omega)]
    omega
  · rw [if_neg first, Int.emod_eq_of_lt (by omega) (by omega)]
    omega

theorem iterate_wrap_up (inside : n < length) : (wrapUp length)^[k] n = (n + k) % length := by
  induction k with
  | zero => exact (Nat.mod_eq_of_lt inside).symm
  | succ k ih =>
      have within : (n + k) % length < length := Nat.mod_lt _ (by omega)
      rw [Function.iterate_succ_apply', ih, wrap_up_eq _ _ within, Nat.mod_add_mod, Nat.add_assoc]

theorem iterate_wrap_down_lt (inside : n < length) : (wrapDown length)^[k] n < length := by
  induction k with
  | zero => exact inside
  | succ k ih =>
      rw [Function.iterate_succ_apply', wrapDown]
      split <;> omega

theorem cast_iterate_wrap_down (inside : n < length) :
    ((wrapDown length)^[k] n : Int) = (n - k) % length := by
  induction k with
  | zero =>
      rw [Function.iterate_zero_apply, Int.natCast_zero, Int.sub_zero,
        Int.emod_eq_of_lt (by omega) (by omega)]
  | succ k ih =>
      have within := iterate_wrap_down_lt length n k inside
      rw [Function.iterate_succ_apply', wrap_down_eq _ _ within, ih, Int.emod_sub_emod, Int.natCast_succ,
        Int.sub_sub]

theorem iterate_wrap_down (inside : n < length) :
    (wrapDown length)^[k] n = ((n - k : Int) % length).toNat := by
  rw [← cast_iterate_wrap_down length n k inside, Int.toNat_natCast]

theorem iterate_wrap_down_of_le (left : k ≤ n) : (wrapDown length)^[k] n = n - k := by
  induction k with
  | zero => rfl
  | succ k ih =>
      rw [Function.iterate_succ_apply', ih (by omega), wrapDown, if_neg (by omega)]
      omega

theorem wrap_down_of_wrap_up (inside : n < length) :
    (wrapDown length)^[k] ((wrapUp length)^[k] n) = n := by
  have within : (n + k) % length < length := Nat.mod_lt _ (by omega)
  rw [iterate_wrap_up length n k inside, iterate_wrap_down length _ k within, Int.natCast_emod,
    Int.emod_sub_emod, Int.natCast_add, Int.add_sub_cancel, Int.emod_eq_of_lt (by omega) (by omega),
    Int.toNat_natCast]

theorem wrap_up_of_wrap_down (inside : n < length) :
    (wrapUp length)^[k] ((wrapDown length)^[k] n) = n := by
  have within := iterate_wrap_down_lt length n k inside
  rw [iterate_wrap_up length _ k within, ← Int.natCast_inj, Int.natCast_emod, Int.natCast_add,
    cast_iterate_wrap_down length n k inside, Int.emod_add_emod, Int.sub_add_cancel,
    Int.emod_eq_of_lt (by omega) (by omega)]

theorem iterate_wrap_up_of_empty (moved : 0 < k) : (wrapUp 0)^[k] n = 0 := by
  obtain ⟨k, rfl⟩ := Nat.exists_eq_succ_of_ne_zero (Nat.ne_of_gt moved)
  rw [Function.iterate_succ_apply', wrapUp, if_neg (by omega)]

theorem iterate_wrap_down_of_empty (far : n ≤ k) : (wrapDown 0)^[k] n = 0 := by
  obtain ⟨rest, rfl⟩ := Nat.exists_eq_add_of_le' far
  rw [Function.iterate_add_apply, iterate_wrap_down_of_le 0 n n (Nat.le_refl n), Nat.sub_self]
  exact Function.iterate_fixed rfl rest

end Ring

-- The pointer after so many moves in its direction.
def advances (g : Grid) (k : Nat) (p : Pointer) : Pointer :=
  (advance g)^[k] p

section Moves

variable (g : Grid) (x y k : Nat)

-- On its way the pointer stays in its row, or in its column, so that the ring is the same all the time.
theorem advances_along (place : Nat → Position) (d : Direction) (ring : Nat → Nat)
    (moves : ∀ n, advance g ⟨place n, d⟩ = ⟨place (ring n), d⟩) (n : Nat) :
    advances g k ⟨place n, d⟩ = ⟨place (ring^[k] n), d⟩ := by
  have along : Function.Semiconj (fun n => Pointer.mk (place n) d) ring (advance g) :=
    fun n => (moves n).symm
  exact (along.iterate_right k n).symm

theorem advances_right :
    advances g k ⟨⟨x, y⟩, .right⟩ = ⟨⟨(wrapUp (g.rowLength y))^[k] x, y⟩, .right⟩ :=
  advances_along g k (fun x => ⟨x, y⟩) .right _ (fun _ => rfl) x

theorem advances_left :
    advances g k ⟨⟨x, y⟩, .left⟩ = ⟨⟨(wrapDown (g.rowLength y))^[k] x, y⟩, .left⟩ :=
  advances_along g k (fun x => ⟨x, y⟩) .left _ (fun _ => rfl) x

theorem advances_down :
    advances g k ⟨⟨x, y⟩, .down⟩ = ⟨⟨x, (wrapUp g.rowCount)^[k] y⟩, .down⟩ :=
  advances_along g k (fun y => ⟨x, y⟩) .down _ (fun _ => rfl) y

theorem advances_up :
    advances g k ⟨⟨x, y⟩, .up⟩ = ⟨⟨x, (wrapDown g.rowCount)^[k] y⟩, .up⟩ :=
  advances_along g k (fun y => ⟨x, y⟩) .up _ (fun _ => rfl) y

end Moves

theorem advances_and_back (g : Grid) (x y k : Nat) (d : Direction) (row : y < g.rowCount)
    (inside : d.isHorizontal = true → x < g.rowLength y) :
    advances g k ((advances g k ⟨⟨x, y⟩, d⟩).turn d.opposite) = ⟨⟨x, y⟩, d.opposite⟩ := by
  cases d with
  | right =>
      rw [advances_right, turn, Direction.opposite, advances_left, wrap_down_of_wrap_up _ x k (inside rfl)]
  | left =>
      rw [advances_left, turn, Direction.opposite, advances_right, wrap_up_of_wrap_down _ x k (inside rfl)]
  | down => rw [advances_down, turn, Direction.opposite, advances_up, wrap_down_of_wrap_up _ y k row]
  | up => rw [advances_up, turn, Direction.opposite, advances_down, wrap_up_of_wrap_down _ y k row]

theorem movement_in_closed_form (g : Grid) :
    (∀ x y, y < g.rowCount →
      (x < g.rowLength y → ∀ k,
        advances g k ⟨⟨x, y⟩, .right⟩ = ⟨⟨(x + k) % g.rowLength y, y⟩, .right⟩ ∧
        advances g k ⟨⟨x, y⟩, .left⟩ = ⟨⟨((x - k : Int) % g.rowLength y).toNat, y⟩, .left⟩) ∧
      (∀ k,
        advances g k ⟨⟨x, y⟩, .down⟩ = ⟨⟨x, (y + k) % g.rowCount⟩, .down⟩ ∧
        advances g k ⟨⟨x, y⟩, .up⟩ = ⟨⟨x, ((y - k : Int) % g.rowCount).toNat⟩, .up⟩) ∧
      (g.rowLength y ≤ x → 0 < g.rowLength y →
        advances g 1 ⟨⟨x, y⟩, .right⟩ = ⟨⟨0, y⟩, .right⟩ ∧
        ∀ k ≤ x, advances g k ⟨⟨x, y⟩, .left⟩ = ⟨⟨x - k, y⟩, .left⟩) ∧
      (g.rowLength y = 0 →
        (∀ k, 0 < k → advances g k ⟨⟨x, y⟩, .right⟩ = ⟨⟨0, y⟩, .right⟩) ∧
        ∀ k, x ≤ k → advances g k ⟨⟨x, y⟩, .left⟩ = ⟨⟨0, y⟩, .left⟩) ∧
      (∀ d : Direction, (d.isHorizontal = true → x < g.rowLength y) → ∀ k,
        advances g k ((advances g k ⟨⟨x, y⟩, d⟩).turn d.opposite) = ⟨⟨x, y⟩, d.opposite⟩)) ∧
    (g.rowCount = 0 → ∀ d, advance g ⟨.origin, d⟩ = ⟨.origin, d⟩) := by
  refine ⟨?_, ?_⟩
  · intro x y row
    refine ⟨?_, ?_, ?_, ?_, fun d inside k => advances_and_back g x y k d row inside⟩
    · intro inside k
      rw [advances_right, advances_left, iterate_wrap_up _ x k inside, iterate_wrap_down _ x k inside]
      exact ⟨rfl, rfl⟩
    · intro k
      rw [advances_down, advances_up, iterate_wrap_up _ y k row, iterate_wrap_down _ y k row]
      exact ⟨rfl, rfl⟩
    · intro beyond _
      refine ⟨?_, ?_⟩
      · rw [advances_right, Function.iterate_one, wrapUp, if_neg (by omega)]
      · intro k left
        rw [advances_left, iterate_wrap_down_of_le _ x k left]
    · intro empty
      refine ⟨?_, ?_⟩
      · intro k moved
        rw [advances_right, empty, iterate_wrap_up_of_empty x k moved]
      · intro k far
        rw [advances_left, empty, iterate_wrap_down_of_empty x k far]
  · intro none d
    have empty : g.rowLength 0 = 0 := Grid.row_length_of_missing g 0 (Nat.le_of_eq none)
    cases d with
    | right | left => rw [advance, next, Position.origin, empty]; rfl
    | down | up => rw [advance, next, none]; rfl

-- Rows of three cells, none and two.
def ragged : Grid :=
  Grid.parse "abc\n\nde"

theorem movement_in_closed_form_on_rows_of_three_none_and_two :
    1 < ragged.rowLength 0 ∧ advances ragged 5 ⟨⟨1, 0⟩, .left⟩ = ⟨⟨2, 0⟩, .left⟩ ∧
      advances ragged 4 ⟨⟨7, 0⟩, .up⟩ = ⟨⟨7, 2⟩, .up⟩ ∧
      ragged.rowLength 2 ≤ 4 ∧ 0 < ragged.rowLength 2 ∧
      advances ragged 1 ⟨⟨4, 2⟩, .right⟩ = ⟨⟨0, 2⟩, .right⟩ ∧
      advances ragged 3 ⟨⟨4, 2⟩, .left⟩ = ⟨⟨1, 2⟩, .left⟩ ∧
      ragged.rowLength 1 = 0 ∧ advances ragged 6 ⟨⟨4, 1⟩, .left⟩ = ⟨⟨0, 1⟩, .left⟩ ∧
      advances ragged 4 ((advances ragged 4 ⟨⟨7, 1⟩, .down⟩).turn .up) = ⟨⟨7, 1⟩, .up⟩ ∧
      (Grid.parse "\n").rowCount = 0 ∧ advance (Grid.parse "\n") ⟨.origin, .left⟩ = ⟨.origin, .left⟩ := by
  have rows : ragged.rowCount = 3 := by decide +kernel
  have three : ragged.rowLength 0 = 3 := by decide +kernel
  have none : ragged.rowLength 1 = 0 := by decide +kernel
  have two : ragged.rowLength 2 = 2 := by decide +kernel
  have bare : (Grid.parse "\n").rowCount = 0 := by decide +kernel
  obtain ⟨on, _⟩ := movement_in_closed_form ragged
  obtain ⟨real, _⟩ := on 1 0 (by omega)
  obtain ⟨_, column, _⟩ := on 7 0 (by omega)
  obtain ⟨_, _, void, _⟩ := on 4 2 (by omega)
  obtain ⟨_, _, _, empty, _⟩ := on 4 1 (by omega)
  obtain ⟨_, _, _, _, back⟩ := on 7 1 (by omega)
  have left := (real (by omega) 5).2
  have up := (column 4).2
  obtain ⟨first, rest⟩ := void (by omega) (by omega)
  rw [three] at left
  rw [rows] at up
  exact ⟨by omega, left, up, by omega, by omega, first, rest 3 (by omega), none,
    (empty none).2 6 (by omega), back .down nofun 4, bare,
    (movement_in_closed_form (Grid.parse "\n")).2 bare .left⟩

end Pointer

end Befunge
