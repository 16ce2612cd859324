import Mathlib.Data.List.Induction
import Befunge.Proofs.Session.Course
import Befunge.Proofs.Session.Operation

/-!
Going back and stepping again is exact. The history always holds the machines before the last steps,
each of them one step before the next, so that stepping again from any of them leads through the
same machines to the same end, whatever was done with the session before.
-/
set_option autoImplicit false

namespace Befunge

namespace History

-- What a history holds, newest first, when `current` is the machine that the last step led to.
def Recorded (bounds : Bounds) : Machine → List Machine → Prop
  | _, [] => True
  | current, m :: older =>
      m.halted = false ∧ m.attempt bounds = current ∧ Recorded bounds m older

-- The machine that going back over all of `newer` leads to.
def oldest (current : Machine) (newer : List Machine) : Machine :=
  newer.getLast?.getD current

theorem oldest_cons (current m : Machine) (newer : List Machine) :
    oldest current (m :: newer) = oldest m newer := by
  cases newer with
  | nil => rfl
  | cons n rest => simp [oldest, List.getLast?_cons]

theorem oldest_append_singleton (current m : Machine) (newer : List Machine) :
    oldest current (newer ++ [m]) = m := by
  simp [oldest]

theorem recorded_append (bounds : Bounds) (current : Machine) (newer older : List Machine) :
    Recorded bounds current (newer ++ older) ↔
      Recorded bounds current newer ∧ Recorded bounds (oldest current newer) older := by
  induction newer generalizing current with
  | nil => simp [Recorded, oldest]
  | cons m rest ih => simp only [List.cons_append, Recorded, oldest_cons, ih m, and_assoc]

-- Eviction forgets the oldest machines and leaves the others chained.
theorem recorded_take (bounds : Bounds) (current : Machine) (items : List Machine) (n : Nat)
    (recorded : Recorded bounds current items) : Recorded bounds current (items.take n) := by
  rw [← List.take_append_drop n items, recorded_append] at recorded
  exact recorded.1

theorem recorded_drop (bounds : Bounds) (current : Machine) (items : List Machine) (n : Nat)
    (recorded : Recorded bounds current items) :
    Recorded bounds (oldest current (items.take n)) (items.drop n) := by
  rw [← List.take_append_drop n items, recorded_append] at recorded
  exact recorded.2

theorem recorded_running (bounds : Bounds) (current : Machine) (items : List Machine)
    (recorded : Recorded bounds current items) : ∀ m ∈ items, m.halted = false := by
  induction items generalizing current with
  | nil => simp
  | cons m older ih =>
      intro n member
      rcases List.mem_cons.1 member with rfl | later
      · exact recorded.1
      · exact ih m recorded.2.2 n later

theorem recorded_newest (bounds : Bounds) (current m : Machine) (items : List Machine)
    (recorded : Recorded bounds current items) (newest : items.head? = some m) :
    m.attempt bounds = current := by
  cases items with
  | nil => simp at newest
  | cons n older =>
      rw [List.head?_cons, Option.some.injEq] at newest
      rw [← newest]
      exact recorded.2.1

theorem recorded_adjacent (bounds : Bounds) (current : Machine) (items : List Machine)
    (recorded : Recorded bounds current items) (i : Nat) (older : i + 1 < items.length) :
    items[i + 1].attempt bounds = items[i] := by
  induction items generalizing current i with
  | nil => simp at older
  | cons m rest ih =>
      cases i with
      | zero =>
          have inside : 0 < rest.length := by simpa using older
          exact recorded_newest bounds m rest[0] rest recorded.2.2 (by simp [List.head?_eq_getElem?, inside])
      | succ i => exact ih m recorded.2.2 i (by simpa using older)

end History

namespace Session

open History

theorem back_machine (s : Session) (count : Nat) :
    (s.back count).2.machine = oldest s.machine (s.history.newestFirst.take count) := rfl

theorem back_history (s : Session) (count : Nat) :
    (s.back count).2.history = s.history.dropNewest count := rfl

theorem back_count (s : Session) (count : Nat) : (s.back count).1 = min count s.history.size := by
  change s.history.size - (s.history.size - min count s.history.size) = min count s.history.size
  omega

-- The invariant of all operations: a step adds the machine that it starts from, going back removes
-- machines from the new end, and whatever else changes the machine empties the history.
def Consistent (s : Session) : Prop :=
  Recorded s.config.bounds s.machine s.history.newestFirst

theorem consistent_of_cleared (s : Session) (empty : s.history.newestFirst = []) : Consistent s := by
  rw [Consistent, empty]
  trivial

theorem consistent_step (s : Session) (consistent : Consistent s) : Consistent s.step.2 := by
  cases running : s.machine.halted with
  | true =>
      rw [step_of_halted s running]
      exact consistent
  | false =>
      rw [Consistent, config_step, machine_step, history_step s running, Window.newest_first_push]
      exact recorded_take _ _ _ _ ⟨running, rfl, consistent⟩

theorem consistent_back (s : Session) (count : Nat) (consistent : Consistent s) :
    Consistent (s.back count).2 := by
  have shorter := recorded_drop _ _ _ count consistent
  rw [← Window.newest_first_drop_newest] at shorter
  exact shorter

theorem consistent_perform (s : Session) (operation : Operation) (consistent : Consistent s) :
    Consistent (s.perform operation).2 := by
  cases operation with
  | move m =>
      exact move_keeps consistent_step (fun _ _ kept => kept)
        (fun t count kept => consistent_back t count kept) s m consistent
  | reset => exact consistent_of_cleared _ rfl
  | restore machine => exact consistent_of_cleared _ rfl
  | apply image => exact consistent_of_cleared _ rfl
  | reseed seed => exact consistent
  | setProgram source name => exact consistent
  | addBreakpoint p => exact consistent
  | removeBreakpoint p => exact consistent
  | clearBreakpoints => exact consistent
  | setLimit limit => exact consistent
  | mapTracer f => exact consistent

theorem consistent_of_reachable (s : Session) (reached : Reachable s) : Consistent s := by
  induction reached with
  | construct source config name tracer capacity limit => exact consistent_of_cleared _ rfl
  | perform s operation _ ih => exact consistent_perform s operation ih

-- Induction on what was taken back, from its oldest end: that is where the first step starts.
theorem step_again_replays (newer older : List Machine) (current : Machine) (t : Session)
    (recorded : Recorded t.config.bounds current (newer ++ older))
    (fits : (newer ++ older).length ≤ t.history.capacity)
    (machine : t.machine = oldest current newer) (history : t.history.newestFirst = older) :
    (stepAgain newer.length t).machine = current ∧
      (stepAgain newer.length t).history.newestFirst = newer ++ older ∧
      (stepAgain newer.length t).history.capacity = t.history.capacity := by
  induction newer using List.reverseRecOn generalizing older t with
  | nil => exact ⟨machine, history, rfl⟩
  | append_singleton rest m ih =>
      rw [oldest_append_singleton] at machine
      rw [List.append_assoc, List.singleton_append] at recorded fits ⊢
      obtain ⟨running, next, _⟩ := ((recorded_append _ _ _ _).1 recorded).2
      rw [← machine] at running next
      have pushed := history_step t running
      have inside : (m :: older).length ≤ t.history.capacity := by
        simp only [List.length_append, List.length_cons] at fits ⊢
        omega
      have capacity : t.step.2.history.capacity = t.history.capacity := by
        rw [pushed, Window.capacity_push]
      have stored : t.step.2.history.newestFirst = m :: older := by
        rw [pushed, Window.newest_first_push, history, machine, List.take_of_length_le inside]
      have replayed := ih (m :: older) t.step.2 (by simpa using recorded) (by rwa [capacity])
        (by rw [machine_step, next]) stored
      rw [capacity] at replayed
      simpa [stepAgain] using replayed

theorem recorded_oldest_first (bounds : Bounds) (current : Machine) (h : History)
    (recorded : Recorded bounds current h.newestFirst) (i : Nat) (inside : i + 1 < h.toList.length) :
    h.toList[i].attempt bounds = h.toList[i + 1] := by
  have size : h.toList.length = h.newestFirst.length := by simp [Window.toList]
  have place : h.newestFirst.length - 1 - i = h.newestFirst.length - 1 - (i + 1) + 1 := by omega
  simp only [Window.toList, List.getElem_reverse, place]
  exact recorded_adjacent bounds current _ recorded _ (by omega)

theorem back_replays (s : Session) (consistent : Consistent s) (count : Nat) :
    (stepAgain (s.back count).1 (s.back count).2).machine = s.machine ∧
      (stepAgain (s.back count).1 (s.back count).2).history.newestFirst = s.history.newestFirst ∧
      (stepAgain (s.back count).1 (s.back count).2).history.capacity = s.history.capacity := by
  have taken : (s.history.newestFirst.take count).length = (s.back count).1 := by
    rw [List.length_take, Window.length_newest_first, back_count]
  have all := List.take_append_drop count s.history.newestFirst
  have replayed := step_again_replays (s.history.newestFirst.take count)
    (s.history.newestFirst.drop count) s.machine (s.back count).2 (by rw [all]; exact consistent)
    (by rw [all, Window.length_newest_first]; exact s.history.size_le_capacity)
    (back_machine s count) (by rw [back_history, Window.newest_first_drop_newest])
  rwa [taken, all] at replayed

-- The history of a session that is reached by any operations at all, and what it is good for: so many
-- steps back and as many steps forward lead to the machine and to the history that there were before.
theorem time_travel_exact (s : Session) (reached : Reachable s) :
    s.history.toList.length ≤ s.history.capacity ∧
      (∀ m ∈ s.history.toList, m.halted = false) ∧
      (∀ i, (inside : i + 1 < s.history.toList.length) →
        s.history.toList[i].attempt s.config.bounds = s.history.toList[i + 1]) ∧
      (∀ m, s.history.toList.getLast? = some m → m.attempt s.config.bounds = s.machine) ∧
      ∀ count, (s.back count).1 = min count s.history.toList.length ∧
        (stepAgain (s.back count).1 (s.back count).2).machine = s.machine ∧
        (stepAgain (s.back count).1 (s.back count).2).history.toList = s.history.toList ∧
        (stepAgain (s.back count).1 (s.back count).2).history.capacity = s.history.capacity := by
  have consistent := consistent_of_reachable s reached
  refine ⟨?_, ?_, ?_, ?_, ?_⟩
  · rw [Window.length_to_list]
    exact s.history.size_le_capacity
  · intro m member
    exact recorded_running _ _ _ consistent m (List.mem_reverse.1 member)
  · intro i inside
    exact recorded_oldest_first _ _ _ consistent i inside
  · intro m newest
    rw [Window.toList, List.getLast?_reverse] at newest
    exact recorded_newest _ _ m _ consistent newest
  · intro count
    obtain ⟨machine, history, capacity⟩ := back_replays s consistent count
    refine ⟨?_, machine, congrArg List.reverse history, capacity⟩
    rw [back_count, Window.length_to_list]

-- Three steps of a strict program, the last one a fault, with room for the last two of them.
def faulted : Session :=
  ((construct "99g@" { bounds := .strict } none .disabled 2 none).perform (.move (.steps 3))).2

theorem time_travel_exact_after_a_fault :
    Reachable faulted ∧ faulted.machine.stack.topFirst = [] ∧ (faulted.back 5).1 = 2 ∧
      (faulted.back 5).2.machine.stack.topFirst = [9] ∧
      (stepAgain 2 (faulted.back 5).2).machine = faulted.machine ∧
      (stepAgain 2 (faulted.back 5).2).history.toList = faulted.history.toList := by
  have reached : Reachable faulted := .perform _ (.move (.steps 3)) (.construct _ _ _ _ _ _)
  have undone : (faulted.back 5).1 = 2 := by decide +kernel
  obtain ⟨_, _, _, _, replayed⟩ := time_travel_exact faulted reached
  obtain ⟨_, machine, history, _⟩ := replayed 5
  rw [undone] at machine history
  exact ⟨reached, by decide +kernel, undone, by decide +kernel, machine, history⟩

end Session

end Befunge
