import Befunge.Trace.Log

/-!
What a log gains. Events that are recorded one after the other become records with consecutive
numbers, behind those that the log held; the newest records stay, as many as there is room for.
-/
set_option autoImplicit false

namespace Befunge

theorem last_items_of_few {α : Type} (n : Nat) (items : List α) (few : items.length ≤ n) :
    lastItems n items = items := by
  rw [lastItems, Nat.sub_eq_zero_of_le few, List.drop_zero]

-- What has left would have left all the same.
theorem last_items_append {α : Type} (n : Nat) (older newer : List α) :
    lastItems n (lastItems n older ++ newer) = lastItems n (older ++ newer) := by
  have outside : older.length - n ≤ older.length := Nat.sub_le _ _
  rw [lastItems, lastItems, lastItems, ← List.drop_append_of_le_length outside, List.drop_drop]
  congr 1
  rw [List.length_drop, List.length_append]
  omega

theorem last_items_of_last_items {α : Type} (k n : Nat) (items : List α) (fewer : k ≤ n) :
    lastItems k (lastItems n items) = lastItems k items := by
  rw [lastItems, lastItems, lastItems, List.drop_drop, List.length_drop]
  congr 1
  omega

theorem last_items_of_append {α : Type} (older newer : List α) :
    lastItems newer.length (older ++ newer) = newer := by
  rw [lastItems, List.length_append, Nat.add_sub_cancel, List.drop_left]

theorem map_last_items {α β : Type} (f : α → β) (n : Nat) (items : List α) :
    (lastItems n items).map f = lastItems n (items.map f) := by
  rw [lastItems, lastItems, List.map_drop, List.length_map]

namespace Trace

-- A record but for its time, which nothing but a clock decides.
def Record.untimed (r : Record) : Nat × UInt64 × Event :=
  (r.id, r.step, r.event)

-- Events, each with its step, under consecutive numbers.
def numbered (first : Nat) (told : List (UInt64 × Event)) : List (Nat × UInt64 × Event) :=
  (told.zipIdx first).map Prod.swap

theorem numbered_append (first : Nat) (told later : List (UInt64 × Event)) :
    numbered first (told ++ later) = numbered first told ++ numbered (first + told.length) later := by
  rw [numbered, List.zipIdx_append, List.map_append]
  rfl

theorem map_snd_numbered (first : Nat) (told : List (UInt64 × Event)) :
    (numbered first told).map Prod.snd = told := by
  rw [numbered, List.map_map]
  exact List.zipIdx_map_fst first told

-- The same records under numbers that are higher by `shift`.
def renumbered (shift : Nat) (entries : List (Nat × UInt64 × Event)) : List (Nat × UInt64 × Event) :=
  entries.map fun entry => (shift + entry.1, entry.2)

theorem numbered_add (shift first : Nat) (told : List (UInt64 × Event)) :
    numbered (shift + first) told = renumbered shift (numbered first told) := by
  rw [numbered, ← List.map_snd_add_zipIdx_eq_zipIdx, renumbered, numbered, List.map_map, List.map_map]
  refine List.map_congr_left ?_
  intro entry _
  exact Prod.ext (Nat.add_comm entry.2 shift) rfl

-- A filter lets through the kinds of events that it names. One that names none lets everything through.
def passes (kinds : List String) (entry : UInt64 × Event) : Bool :=
  decide (kinds = [] ∨ entry.2.kind ∈ kinds)

theorem filter_passes_of_no_kinds (kinds : List String) (none : kinds = [])
    (told : List (UInt64 × Event)) : told.filter (passes kinds) = told := by
  apply List.filter_eq_self.2
  intro entry _
  exact decide_eq_true (.inl none)

namespace Log

def untimed (l : Log) : List (Nat × UInt64 × Event) :=
  l.records.map Record.untimed

-- The events of the newest records, so many of them, each with its step.
def newest (count : Nat) (l : Log) : List (UInt64 × Event) :=
  (lastItems count l.untimed).map Prod.snd

structure Gains (before : Log) (told : List (UInt64 × Event)) (after : Log) : Prop where
  capacity : after.window.capacity = before.window.capacity
  nextId : after.nextId = before.nextId + told.length
  records : after.untimed = lastItems before.window.capacity (before.untimed ++ numbered before.nextId told)

theorem gains_nothing (l : Log) : l.Gains [] l where
  capacity := rfl
  nextId := rfl
  records := by
    have few : l.untimed.length ≤ l.window.capacity := by
      rw [untimed, records, List.length_map, Window.length_to_list]
      exact l.window.size_le_capacity
    change l.untimed = lastItems l.window.capacity (l.untimed ++ [])
    rw [List.append_nil, last_items_of_few _ _ few]

theorem gains_push (step time : UInt64) (event : Event) (l : Log) :
    l.Gains [(step, event)] (l.push step time event) where
  capacity := Window.capacity_push _ _
  nextId := rfl
  records := by
    rw [untimed, records, push, Window.to_list_push, map_last_items, List.map_append]
    rfl

theorem gains_append (before middle after : Log) (told later : List (UInt64 × Event))
    (first : before.Gains told middle) (second : middle.Gains later after) :
    before.Gains (told ++ later) after where
  capacity := second.capacity.trans first.capacity
  nextId := by rw [second.nextId, first.nextId, List.length_append, Nat.add_assoc]
  records := by
    rw [second.records, first.records, first.capacity, first.nextId, last_items_append, numbered_append,
      List.append_assoc]

theorem newest_of_gains (before after : Log) (told : List (UInt64 × Event))
    (gains : before.Gains told after) (room : told.length ≤ before.window.capacity) :
    after.newest told.length = told := by
  have length : (numbered before.nextId told).length = told.length := by
    rw [numbered, List.length_map, List.length_zipIdx]
  rw [newest, gains.records, ← length, last_items_of_last_items _ _ _ (by rw [length]; exact room),
    last_items_of_append, map_snd_numbered]

-- The one log holds what the other one holds, and has made `shift` records more.
structure Ahead (shift : Nat) (l m : Log) : Prop where
  capacity : l.window.capacity = m.window.capacity
  nextId : l.nextId = shift + m.nextId
  records : l.untimed = renumbered shift m.untimed

theorem ahead_of_gains (shift : Nat) (l m l' m' : Log) (told : List (UInt64 × Event))
    (ahead : l.Ahead shift m) (left : l.Gains told l') (right : m.Gains told m') : l'.Ahead shift m' where
  capacity := by rw [left.capacity, right.capacity, ahead.capacity]
  nextId := by rw [left.nextId, right.nextId, ahead.nextId, Nat.add_assoc]
  records := by
    rw [left.records, right.records, ahead.records, ahead.capacity, ahead.nextId, numbered_add,
      renumbered, renumbered, renumbered, map_last_items, List.map_append]

end Log

end Trace

end Befunge
