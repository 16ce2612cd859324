import Mathlib.Data.List.Induction
import Befunge.Proofs.Trace.Log

/-!
What a log holds after any recordings and clearings. Of all records that were ever made it holds the
newest since it was last cleared, as many as it has room for, under the numbers that they were made with;
and it answers questions from those that it holds.
-/
set_option autoImplicit false

namespace Befunge

-- Whether the window is cut before an item enters or only afterwards, the same items stay.
theorem last_items_concat {α : Type} (n k : Nat) (items : List α) (a : α) :
    lastItems n (lastItems (min n k) items ++ [a]) = lastItems (min n (k + 1)) (items ++ [a]) := by
  have inside : items.length - min n k ≤ items.length := Nat.sub_le _ _
  rw [lastItems, lastItems, lastItems, ← List.drop_append_of_le_length inside, List.drop_drop]
  congr 1
  simp only [List.length_drop, List.length_append, List.length_singleton]
  omega

theorem length_last_items {α : Type} (n : Nat) (items : List α) :
    (lastItems n items).length = min n items.length := by
  rw [lastItems, List.length_drop]
  omega

theorem last_items_zero {α : Type} (items : List α) : lastItems 0 items = [] := by
  rw [lastItems, Nat.sub_zero, List.drop_length]

theorem last_items_range (n count : Nat) (fewer : n ≤ count) :
    lastItems n (List.range count) = List.range' (count - n) n := by
  rw [lastItems, List.range_eq_range', List.drop_range', List.length_range', Nat.sub_sub_self fewer]
  simp

namespace Trace

namespace Log

inductive Operation where
  | push (step time : UInt64) (event : Event)
  | clear
deriving DecidableEq

def perform (l : Log) : Operation → Log
  | .push step time event => (l.enter step time event).2
  | .clear => l.clear

def performs (capacity : Nat) (operations : List Operation) : Log :=
  operations.foldl perform (.empty capacity)

-- What an operation records.
def Operation.recording? : Operation → Option (UInt64 × UInt64 × Event)
  | .push step time event => some (step, time, event)
  | .clear => none

def recordings (operations : List Operation) : List (UInt64 × UInt64 × Event) :=
  operations.filterMap Operation.recording?

-- All records that the operations make, numbered through, whatever is held of them.
def everMade (operations : List Operation) : List Record :=
  (recordings operations).mapIdx fun id entry => { id, step := entry.1, time := entry.2.1, event := entry.2.2 }

-- The number of recordings since the last clearing, or since the beginning.
def sinceCleared (operations : List Operation) : Nat :=
  (operations.reverse.takeWhile (·.recording?.isSome)).length

-- All the items that match, in their order.
structure Selects (matching : Record → Prop) (items selection : List Record) : Prop where
  sublist : selection.Sublist items
  mem_iff : ∀ r, r ∈ selection ↔ r ∈ items ∧ matching r

theorem selects_filter (matching : Record → Prop) (test : Record → Bool) (items : List Record)
    (decides : ∀ r, test r = true ↔ matching r) : Selects matching items (items.filter test) where
  sublist := List.filter_sublist
  mem_iff r := List.mem_filter.trans (and_congr_right fun _ => decides r)

section Made

variable (operations : List Operation) (step time : UInt64) (event : Event)

theorem length_ever_made : (everMade operations).length = (recordings operations).length :=
  List.length_mapIdx

theorem ids_ever_made : (everMade operations).map Record.id = List.range (everMade operations).length := by
  apply List.ext_getElem (by simp)
  intro i _ _
  simp [everMade]

theorem recordings_push :
    recordings (operations ++ [.push step time event]) = recordings operations ++ [(step, time, event)] :=
  List.filterMap_append

theorem recordings_clear : recordings (operations ++ [.clear]) = recordings operations := by
  rw [recordings, List.filterMap_append]
  exact List.append_nil _

theorem ever_made_push :
    everMade (operations ++ [.push step time event]) =
      everMade operations ++ [{ id := (everMade operations).length, step, time, event }] := by
  rw [length_ever_made, everMade, recordings_push, List.mapIdx_concat, everMade]

theorem ever_made_clear : everMade (operations ++ [.clear]) = everMade operations := by
  rw [everMade, recordings_clear, everMade]

theorem since_cleared_push :
    sinceCleared (operations ++ [.push step time event]) = sinceCleared operations + 1 := by
  rw [sinceCleared, List.reverse_concat]
  rfl

theorem since_cleared_clear : sinceCleared (operations ++ [.clear]) = 0 := by
  rw [sinceCleared, List.reverse_concat]
  rfl

theorem since_cleared_le : sinceCleared operations ≤ (everMade operations).length := by
  induction operations using List.reverseRecOn with
  | nil => exact Nat.le_refl 0
  | append_singleton operations op ih =>
      cases op with
      | push step time event =>
          rw [since_cleared_push, ever_made_push, List.length_append, List.length_singleton]
          omega
      | clear =>
          rw [since_cleared_clear]
          exact Nat.zero_le _

end Made

-- The log, with room for so many records, stands where these operations lead.
structure Follows (room : Nat) (operations : List Operation) (l : Log) : Prop where
  capacity : l.window.capacity = room
  nextId : l.nextId = (everMade operations).length
  records : l.records = lastItems (min room (sinceCleared operations)) (everMade operations)

section Following

variable (room : Nat) (operations : List Operation) (l : Log)

theorem follows_empty : Follows room [] (empty room) where
  capacity := rfl
  nextId := rfl
  records := List.drop_nil.symm

theorem follows_push (step time : UInt64) (event : Event) (follows : Follows room operations l) :
    Follows room (operations ++ [.push step time event]) (l.push step time event) where
  capacity := (Window.capacity_push _ _).trans follows.capacity
  nextId := by
    rw [ever_made_push, List.length_append, ← follows.nextId]
    rfl
  records := by
    have held : l.window.toList = lastItems (min room (sinceCleared operations)) (everMade operations) :=
      follows.records
    rw [records, push, Window.to_list_push, held, follows.capacity, follows.nextId, last_items_concat,
      since_cleared_push, ever_made_push]

theorem follows_clear (follows : Follows room operations l) :
    Follows room (operations ++ [.clear]) l.clear where
  capacity := follows.capacity
  nextId := by
    rw [ever_made_clear]
    exact follows.nextId
  records := by
    rw [since_cleared_clear, Nat.min_zero, last_items_zero]
    rfl

theorem follows_performs : Follows room operations (performs room operations) := by
  induction operations using List.reverseRecOn with
  | nil => exact follows_empty room
  | append_singleton operations op ih =>
      rw [performs, List.foldl_append]
      cases op with
      | push step time event => exact follows_push room operations _ step time event ih
      | clear => exact follows_clear room operations _ ih

variable (follows : Follows room operations l)
include follows

theorem size_of_follows : l.size = min room (sinceCleared operations) := by
  have few := since_cleared_le operations
  rw [size, ← Window.length_to_list, ← records, follows.records, length_last_items]
  omega

theorem ids_of_follows :
    l.records.map Record.id = List.range' (l.nextId - l.size) l.size := by
  have few := since_cleared_le operations
  rw [size_of_follows room operations l follows, follows.records, follows.nextId, map_last_items, ids_ever_made,
    last_items_range _ _ (by omega)]

theorem last_id_of_follows (r : Record) (newest : l.last? = some r) : r.id + 1 = l.nextId := by
  have few := since_cleared_le operations
  have held := size_of_follows room operations l follows
  have ids := congrArg List.getLast? (ids_of_follows room operations l follows)
  rw [last?, Window.newest_eq_last] at newest
  rw [List.getLast?_map, records, newest, List.getLast?_range', Option.map_some] at ids
  by_cases empty : l.size = 0
  · rw [if_pos empty] at ids
    cases ids
  · rw [if_neg empty, Option.some.injEq] at ids
    rw [follows.nextId] at ids ⊢
    omega

end Following

theorem recent_is_suffix (n : Nat) (l : Log) :
    l.recent n <:+ l.records ∧ (l.recent n).length = min n l.size := by
  rw [recent, Window.recent_eq_last_items, length_last_items, Window.length_to_list]
  exact ⟨List.drop_suffix _ _, rfl⟩

theorem stats_eq (l : Log) :
    l.stats =
      { held := l.size
        capacity := l.window.capacity
        made := l.nextId
        oldestStep := l.records.head?.map Record.step
        newestStep := l.records.getLast?.map Record.step } := by
  rw [stats, Window.oldest_eq_first, Window.newest_eq_last, records]

theorem log_is_a_window_on_all_records (room : Nat) (operations : List Operation) :
    let l := performs room operations
    let held := min room (sinceCleared operations)
    let made := (recordings operations).length
    l.records = lastItems held (everMade operations) ∧
    l.size = held ∧
    (∀ step time event, (l.enter step time event).1 = made) ∧
    l.records.map Record.id = List.range' (made - held) held ∧
    (∀ r, l.last? = some r → r.id + 1 = made) ∧
    (∀ n, l.recent n <:+ l.records ∧ (l.recent n).length = min n l.size) ∧
    (∀ step, Selects (·.step = step) l.records (l.ofStep step)) ∧
    (∀ kind, Selects (·.kind = kind) l.records (l.ofKind kind)) ∧
    (∀ matching : Record → Bool, Selects (matching · = true) l.records (l.filter matching)) ∧
    l.stats =
      { held
        capacity := room
        made
        oldestStep := l.records.head?.map Record.step
        newestStep := l.records.getLast?.map Record.step } := by
  intro l held made
  have follows : Follows room operations l := follows_performs room operations
  have size : l.size = held := size_of_follows room operations l follows
  have next : l.nextId = made := follows.nextId.trans (length_ever_made operations)
  refine ⟨follows.records, size, fun _ _ _ => next, ?_, ?_, fun n => recent_is_suffix n l, ?_, ?_, ?_, ?_⟩
  · rw [ids_of_follows room operations l follows, size, next]
  · intro r newest
    rw [last_id_of_follows room operations l follows r newest, next]
  · exact fun step => selects_filter _ _ _ fun r => beq_iff_eq
  · exact fun kind => selects_filter _ _ _ fun r => beq_iff_eq
  · exact fun matching => selects_filter _ _ _ fun r => Iff.rfl
  · rw [stats_eq, size, next, follows.capacity]

-- With room for two records, the third recording drives the first one out; then all are dropped, and the
-- fourth goes on with the numbers.
def busy : List Operation :=
  [.push 1 0 (.output "a"), .push 1 0 (.fault "b"), .push 2 0 (.output "c"), .clear, .push 3 7 (.halt 3)]

theorem log_is_a_window_on_all_records_behind_a_clearing :
    (performs 2 (busy.take 3)).records.map Record.id = [1, 2] ∧
      (performs 2 busy).records = [{ id := 3, step := 3, time := 7, event := .halt 3 }] ∧
      (performs 2 busy).last? = some { id := 3, step := 3, time := 7, event := .halt 3 } ∧
      3 + 1 = (recordings busy).length ∧
      ((performs 2 busy).enter 4 8 (.output "")).1 = 4 := by
  obtain ⟨_, _, _, full, _⟩ := log_is_a_window_on_all_records 2 (busy.take 3)
  obtain ⟨held, _, number, _, last, _⟩ := log_is_a_window_on_all_records 2 busy
  have newest : (performs 2 busy).last? = some { id := 3, step := 3, time := 7, event := .halt 3 } := by decide
  refine ⟨full.trans (by decide), held.trans (by decide), newest, last _ newest, (number _ _ _).trans (by decide)⟩

end Log

end Trace

end Befunge
