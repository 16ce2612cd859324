import Befunge.History

/-!
The history is a stack of bounded height. Whatever is done with it, it holds and gives what a list would:
machines enter and leave at the list's end, and where there are too many of them they go at its front.
To take back several at once is to take back one as often.
-/
set_option autoImplicit false

namespace Befunge

section Popping

variable {α σ : Type}

-- What so many pops in a row give, first to last, as far as they give anything, and what they leave.
def pops (pop : σ → Option α × σ) : Nat → σ → List α × σ
  | 0, s => ([], s)
  | n + 1, s =>
      let first := pop s
      let others := pops pop n first.2
      (first.1.toList ++ others.1, others.2)

-- The last that so many pops in a row give, and what they leave.
def lastOfPops (pop : σ → Option α × σ) (n : Nat) (s : σ) : Option α × σ :=
  ((pops pop n s).1.getLast?, (pops pop n s).2)

end Popping

namespace Window

variable {α : Type}

theorem drop_newest_zero (w : Window α) : w.dropNewest 0 = w := by
  simp [dropNewest]

theorem drop_newest_drop_newest (m n : Nat) (w : Window α) :
    (w.dropNewest m).dropNewest n = w.dropNewest (m + n) := by
  have taken : min m w.size + min n (w.size - min m w.size) = min (m + n) w.size := by omega
  simp only [dropNewest, List.drop_drop, Nat.sub_sub, taken]

theorem pops_eq (n : Nat) (w : Window α) : pops pop n w = (w.newestFirst.take n, w.dropNewest n) := by
  induction n generalizing w with
  | zero => rw [drop_newest_zero, List.take_zero, pops]
  | succ n ih =>
      have given : w.newest?.toList ++ (w.newestFirst.drop 1).take n = w.newestFirst.take (n + 1) := by
        rw [newest_eq_head]
        cases w.newestFirst with
        | nil => simp
        | cons a older => rfl
      rw [pops, pop, ih, newest_first_drop_newest, given, drop_newest_drop_newest, Nat.add_comm 1 n]

theorem rewind_eq_last_of_pops (n : Nat) (w : Window α) : w.rewind n = lastOfPops pop n w := by
  rw [lastOfPops, pops_eq, rewind]

theorem rewind_gives_none_iff (n : Nat) (w : Window α) :
    (w.rewind n).1 = none ↔ n = 0 ∨ w.toList = [] := by
  rw [rewind, List.getLast?_eq_none_iff, List.take_eq_nil_iff, toList, List.reverse_eq_nil_iff]

-- What is taken back is the end of what was held, and its oldest item is given.
theorem rewind_removes (n : Nat) (w : Window α) :
    ∃ removed, w.toList = (w.rewind n).2.toList ++ removed ∧ removed.length = min n w.size ∧
      (w.rewind n).1 = removed.head? := by
  refine ⟨(w.newestFirst.take n).reverse, ?_, ?_, ?_⟩
  · rw [rewind, toList, toList, newest_first_drop_newest, ← List.reverse_append, List.take_append_drop]
  · rw [List.length_reverse, List.length_take, length_newest_first]
  · rw [rewind, List.head?_reverse]

theorem rewind_gives_oldest (n : Nat) (w : Window α) (all : w.size ≤ n) :
    (w.rewind n).1 = w.toList.head? := by
  have everything : w.newestFirst.take n = w.newestFirst :=
    List.take_of_length_le (by rw [length_newest_first]; exact all)
  rw [rewind, everything, toList, List.head?_reverse]

end Window

namespace History

inductive Operation where
  | push (m : Machine)
  | pop
  | rewind (n : Nat)
  | clear

-- The machine that an operation gives, if it gives one, and the history that it leaves.
def perform (h : History) : Operation → Option Machine × History
  | .push m => (none, h.push m)
  | .pop => h.pop
  | .rewind n => h.rewind n
  | .clear => (none, h.clear)

def popEnd (stack : List Machine) : Option Machine × List Machine :=
  (stack.getLast?, stack.dropLast)

-- The same on a list of machines, oldest first, of which no more than `room` stay.
def performOnList (room : Nat) (stack : List Machine) : Operation → Option Machine × List Machine
  | .push m => (none, lastItems room (stack ++ [m]))
  | .pop => popEnd stack
  | .rewind n => lastOfPops popEnd n stack
  | .clear => (none, [])

-- What operations give, one after the other, and what they lead to.
def performs {σ : Type} (step : σ → Operation → Option Machine × σ) :
    List Operation → σ → List (Option Machine) × σ
  | [], s => ([], s)
  | op :: later, s =>
      let first := step s op
      let others := performs step later first.2
      (first.1 :: others.1, others.2)

-- The history has room for so many machines and holds those of the list.
structure Holds (room : Nat) (stack : List Machine) (h : History) : Prop where
  capacity : h.capacity = room
  machines : h.toList = stack

-- The same was given, and the history that is left holds the list that is left.
structure Agrees {β : Type} (room : Nat) (done : β × History) (onList : β × List Machine) : Prop where
  given : done.1 = onList.1
  holds : Holds room onList.2 done.2

section Holding

variable (room : Nat) (stack : List Machine) (h : History) (holds : Holds room stack h)

theorem holds_empty : Holds room [] (Window.empty room) where
  capacity := rfl
  machines := rfl

include holds

theorem holds_push (m : Machine) : Holds room (lastItems room (stack ++ [m])) (h.push m) where
  capacity := (Window.capacity_push m h).trans holds.capacity
  machines := by rw [Window.to_list_push, holds.capacity, holds.machines]

theorem holds_clear : Holds room [] h.clear where
  capacity := holds.capacity
  machines := rfl

theorem agrees_pop : Agrees room h.pop (popEnd stack) where
  given := by rw [Window.pop, Window.newest_eq_last, holds.machines, popEnd]
  holds :=
    { capacity := holds.capacity
      machines := by
        have length : h.size = stack.length := by rw [← Window.length_to_list, holds.machines]
        rw [Window.pop, Window.to_list_drop_newest, holds.machines, length, popEnd,
          List.dropLast_eq_take] }

theorem agrees_pops (n : Nat) : Agrees room (pops Window.pop n h) (pops popEnd n stack) := by
  induction n generalizing stack h with
  | zero => exact ⟨rfl, holds⟩
  | succ n ih =>
      have first := agrees_pop room stack h holds
      have others := ih _ _ first.holds
      refine ⟨?_, others.holds⟩
      rw [pops, pops, first.given, others.given]

theorem agrees_rewind (n : Nat) : Agrees room (h.rewind n) (lastOfPops popEnd n stack) := by
  have popped := agrees_pops room stack h holds n
  rw [Window.rewind_eq_last_of_pops]
  exact ⟨congrArg List.getLast? popped.given, popped.holds⟩

theorem agrees_perform (op : Operation) : Agrees room (h.perform op) (performOnList room stack op) := by
  cases op with
  | push m => exact ⟨rfl, holds_push room stack h holds m⟩
  | pop => exact agrees_pop room stack h holds
  | rewind n => exact agrees_rewind room stack h holds n
  | clear => exact ⟨rfl, holds_clear room stack h holds⟩

theorem agrees_performs (operations : List Operation) :
    Agrees room (performs perform operations h) (performs (performOnList room) operations stack) := by
  induction operations generalizing stack h with
  | nil => exact ⟨rfl, holds⟩
  | cons op later ih =>
      have first := agrees_perform room stack h holds op
      have others := ih _ _ first.holds
      refine ⟨?_, others.holds⟩
      rw [performs, performs, first.given, others.given]

end Holding

theorem history_is_a_bounded_stack (room : Nat) (operations : List Operation) :
    let done := performs perform operations (Window.empty room)
    let doneOnList := performs (performOnList room) operations []
    let h := done.2
    done.1 = doneOnList.1 ∧
    h.toList = doneOnList.2 ∧
    h.capacity = room ∧
    h.size = h.toList.length ∧
    h.size ≤ room ∧
    (∀ n, h.rewind n = lastOfPops Window.pop n h) ∧
    (∀ n, (h.rewind n).1 = none ↔ n = 0 ∨ h.toList = []) ∧
    (∀ n, ∃ removed, h.toList = (h.rewind n).2.toList ++ removed ∧ removed.length = min n h.size ∧
      (h.rewind n).1 = removed.head?) ∧
    (∀ n, h.size ≤ n → (h.rewind n).1 = h.toList.head?) := by
  intro done doneOnList h
  obtain ⟨given, holds⟩ := agrees_performs room [] (Window.empty room) (holds_empty room) operations
  have bound : h.size ≤ room := by
    rw [← holds.capacity]
    exact h.size_le_capacity
  exact ⟨given, holds.machines, holds.capacity, (Window.length_to_list h).symm, bound,
    fun n => Window.rewind_eq_last_of_pops n h, fun n => Window.rewind_gives_none_iff n h,
    fun n => Window.rewind_removes n h, fun n => Window.rewind_gives_oldest n h⟩

-- Machines that only their numbers of steps tell apart.
def aged (steps : UInt64) : Machine :=
  { Machine.load "@" {} with steps }

-- With room for two machines, the third one drives the first one out, and the fifth one the second one.
def crowded : List Operation :=
  [.push (aged 1), .push (aged 2), .push (aged 3), .pop, .push (aged 4), .push (aged 5), .rewind 0]

theorem history_is_a_bounded_stack_beyond_its_room :
    let h := (performs perform crowded (Window.empty 2)).2
    h.toList = [aged 4, aged 5] ∧ h.size ≤ 7 ∧ (h.rewind 7).1 = some (aged 4) ∧
      (performs perform crowded (Window.empty 2)).1 = [none, none, none, some (aged 3), none, none, none] := by
  intro h
  obtain ⟨given, machines, _, size, _, _, _, _, oldest⟩ := history_is_a_bounded_stack 2 crowded
  have held : h.toList = [aged 4, aged 5] := machines
  have few : h.size ≤ 7 := by
    rw [size, held]
    decide
  exact ⟨held, few, (oldest 7 few).trans (congrArg List.head? held), given⟩

end History

end Befunge
