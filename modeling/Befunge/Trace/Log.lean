import Befunge.Trace.Event
import Befunge.Window

/-!
The log of a trace: the newest records, numbered through from the first one ever made.
-/
set_option autoImplicit false

namespace Befunge.Trace

structure Log where
  window : Window Record
  -- The number of records made so far, and so the number of the next one.
  nextId : Nat := 0

namespace Log

def defaultCapacity : Nat := 10000

def empty (capacity : Nat) : Log :=
  { window := .empty capacity }

def records (l : Log) : List Record :=
  l.window.toList

def size (l : Log) : Nat :=
  l.window.size

-- Records an event under the next number.
def push (step time : UInt64) (event : Event) (l : Log) : Log :=
  { window := l.window.push { id := l.nextId, step, time, event }
    nextId := l.nextId + 1 }

-- Records an event and gives the number that it is recorded under.
def enter (step time : UInt64) (event : Event) (l : Log) : Nat × Log :=
  (l.nextId, l.push step time event)

-- Drops the records and goes on counting.
def clear (l : Log) : Log :=
  { l with window := l.window.clear }

def last? (l : Log) : Option Record :=
  l.window.newest?

def recent (n : Nat) (l : Log) : List Record :=
  l.window.recent n

def ofStep (step : UInt64) (l : Log) : List Record :=
  l.records.filter (·.step == step)

def filter (matching : Record → Bool) (l : Log) : List Record :=
  l.records.filter matching

def ofKind (kind : String) (l : Log) : List Record :=
  l.filter (·.kind == kind)

structure Stats where
  held : Nat
  capacity : Nat
  -- The number of records made, those that have left included.
  made : Nat
  oldestStep : Option UInt64
  newestStep : Option UInt64
deriving DecidableEq, Repr

def stats (l : Log) : Stats :=
  { held := l.size
    capacity := l.window.capacity
    made := l.nextId
    oldestStep := l.window.oldest?.map Record.step
    newestStep := l.window.newest?.map Record.step }

end Log

end Befunge.Trace
