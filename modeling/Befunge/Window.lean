/-!
A window on the newest items of a sequence. Items enter at the new end; when there are more than
the window's capacity, the oldest one leaves. Items can also be taken back from the new end, and
what has left at the old end never returns.

Main statements: `to_list_push`, `to_list_drop_newest` and `size_le_capacity` say what the window
holds after an item has entered, after items were taken back, and at all times.
-/
set_option autoImplicit false

namespace Befunge

def lastItems {α : Type} (n : Nat) (items : List α) : List α :=
  items.drop (items.length - n)

-- Items that have left stay stored until there are as many of them as the window can hold, so that
-- they are let go all at once and an item enters in constant time on average.
structure Window (α : Type) where
  capacity : Nat
  size : Nat := 0
  -- The items in the window, newest first, and behind them some that have left.
  stored : List α := []
  storedCount : Nat := 0
  count_stored : storedCount = stored.length := by rfl
  size_le_stored : size ≤ storedCount := by omega
  size_le_capacity : size ≤ capacity := by omega

namespace Window

variable {α : Type}

def empty (capacity : Nat) : Window α :=
  { capacity }

-- The items in the window, newest first.
def newestFirst (w : Window α) : List α :=
  w.stored.take w.size

-- The items in the window, oldest first.
def toList (w : Window α) : List α :=
  w.newestFirst.reverse

def isEmpty (w : Window α) : Bool :=
  w.size == 0

def newest? (w : Window α) : Option α :=
  if w.size = 0 then none else w.stored.head?

def oldest? (w : Window α) : Option α :=
  w.newestFirst.getLast?

-- The newest `n` items, oldest first.
def recent (n : Nat) (w : Window α) : List α :=
  (w.newestFirst.take n).reverse

def clear (w : Window α) : Window α :=
  empty w.capacity

def push (a : α) (w : Window α) : Window α :=
  let size := min (w.size + 1) w.capacity
  if w.storedCount < 2 * w.capacity then
    { capacity := w.capacity
      size
      stored := a :: w.stored
      storedCount := w.storedCount + 1
      count_stored := by rw [List.length_cons, w.count_stored]
      size_le_stored := by have := w.size_le_stored; omega
      size_le_capacity := by omega }
  else
    { capacity := w.capacity
      size
      stored := (a :: w.stored).take size
      storedCount := size
      count_stored := by
        have := w.size_le_stored
        have := w.count_stored
        rw [List.length_take, List.length_cons]
        omega
      size_le_stored := by omega
      size_le_capacity := by omega }

-- Takes the newest `n` items back, or all of them if there are fewer.
def dropNewest (n : Nat) (w : Window α) : Window α :=
  let taken := min n w.size
  { capacity := w.capacity
    size := w.size - taken
    stored := w.stored.drop taken
    storedCount := w.storedCount - taken
    count_stored := by rw [List.length_drop, w.count_stored]
    size_le_stored := by have := w.size_le_stored; omega
    size_le_capacity := by have := w.size_le_capacity; omega }

def pop (w : Window α) : Option α × Window α :=
  (w.newest?, w.dropNewest 1)

-- Takes the newest `n` items back, or all of them if there are fewer, and gives the oldest of those
-- taken.
def rewind (n : Nat) (w : Window α) : Option α × Window α :=
  ((w.newestFirst.take n).getLast?, w.dropNewest n)

@[simp] theorem length_newest_first (w : Window α) : w.newestFirst.length = w.size := by
  have := w.size_le_stored
  have := w.count_stored
  rw [newestFirst, List.length_take]
  omega

@[simp] theorem length_to_list (w : Window α) : w.toList.length = w.size := by
  rw [toList, List.length_reverse, length_newest_first]

theorem newest_eq_head (w : Window α) : w.newest? = w.newestFirst.head? := by
  rw [newest?, newestFirst, List.head?_take]

theorem newest_eq_last (w : Window α) : w.newest? = w.toList.getLast? := by
  rw [newest_eq_head, toList, List.getLast?_reverse]

theorem oldest_eq_first (w : Window α) : w.oldest? = w.toList.head? := by
  rw [oldest?, toList, List.head?_reverse]

theorem recent_eq_last_items (n : Nat) (w : Window α) : w.recent n = lastItems n w.toList := by
  rw [recent, List.reverse_take, lastItems, toList, List.length_reverse]

@[simp] theorem to_list_empty (capacity : Nat) : (empty capacity : Window α).toList = [] := rfl

@[simp] theorem to_list_clear (w : Window α) : w.clear.toList = [] := rfl

@[simp] theorem capacity_push (a : α) (w : Window α) : (w.push a).capacity = w.capacity := by
  simp only [push]
  split <;> rfl

@[simp] theorem newest_first_push (a : α) (w : Window α) :
    (w.push a).newestFirst = (a :: w.newestFirst).take w.capacity := by
  have bound := w.size_le_capacity
  have fits : (a :: w.newestFirst).take w.capacity = (a :: w.stored).take (min (w.size + 1) w.capacity) := by
    rw [newestFirst, ← List.take_succ_cons, List.take_take, Nat.min_comm]
  rw [fits, newestFirst]
  unfold push
  by_cases room : w.storedCount < 2 * w.capacity
  · simp only [if_pos room]
  · simp only [if_neg room, List.take_take, Nat.min_self]

-- What enters is the last item from then on; of the others, as many as fit stay.
theorem to_list_push (a : α) (w : Window α) :
    (w.push a).toList = lastItems w.capacity (w.toList ++ [a]) := by
  rw [toList, newest_first_push, lastItems, toList, ← List.reverse_cons, List.reverse_take,
    List.length_reverse]

@[simp] theorem newest_first_drop_newest (n : Nat) (w : Window α) :
    (w.dropNewest n).newestFirst = w.newestFirst.drop n := by
  simp only [newestFirst, dropNewest, List.drop_take]
  by_cases few : n ≤ w.size
  · rw [Nat.min_eq_left few]
  · rw [Nat.min_eq_right (by omega), Nat.sub_self, List.take_zero, Nat.sub_eq_zero_of_le (by omega),
      List.take_zero]

theorem to_list_drop_newest (n : Nat) (w : Window α) :
    (w.dropNewest n).toList = w.toList.take (w.size - n) := by
  rw [toList, newest_first_drop_newest, toList, List.take_reverse, length_newest_first]
  by_cases few : n ≤ w.size
  · rw [Nat.sub_sub_self few]
  · rw [List.drop_eq_nil_of_le (by rw [length_newest_first]; omega),
      List.drop_eq_nil_of_le (by rw [length_newest_first]; omega)]

end Window

end Befunge
