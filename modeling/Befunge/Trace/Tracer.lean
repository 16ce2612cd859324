import Befunge.Machine.Step
import Befunge.Trace.Human
import Befunge.Trace.Json
import Befunge.Trace.Log

/-!
The tracer: it turns step reports into events, records those it is asked for, and can echo each
record as a line at once.
-/
set_option autoImplicit false

namespace Befunge

structure Tracer where
  enabled : Bool := false
  json : Bool := false
  echo : Bool := false
  -- The kinds of events to record; none at all stands for every kind.
  kinds : List String := []
  log : Trace.Log := .empty Trace.Log.defaultCapacity
  -- The step that new records belong to.
  step : UInt64 := 0
  -- Nanoseconds since the trace began, as told by whoever has a clock.
  now : UInt64 := 0
  -- The lines echoed and not yet shown, newest first.
  echoed : List String := []

namespace Tracer

def disabled : Tracer := {}

instance : Inhabited Tracer := ⟨disabled⟩

def formatRecord (t : Tracer) (r : Trace.Record) : String :=
  if t.json then Trace.Json.line r else Trace.Human.line {} r

def formatRecords (t : Tracer) (records : List Trace.Record) : String :=
  "\n".intercalate (records.map t.formatRecord)

def accepts (t : Tracer) (event : Trace.Event) : Bool :=
  t.kinds.isEmpty || t.kinds.contains event.kind

def echoLast (t : Tracer) : Tracer :=
  match t.log.last? with
  | some r => { t with echoed := t.formatRecord r :: t.echoed }
  | none => t

def record (event : Trace.Event) (t : Tracer) : Tracer :=
  if t.enabled && t.accepts event then
    let t := { t with log := t.log.push t.step t.now event }
    if t.echo then t.echoLast else t
  else t

def eventsOf (r : Report) (depth : Nat) : List Trace.Event :=
  (match r.action with
    | .push value => [.stringPush r.position value]
    | .execute instruction => [.step r.position r.cell instruction r.direction depth]) ++
  (r.effects.emitted.map Trace.Event.output).toList ++
  (r.effects.stored.map fun (position, cell) => Trace.Event.cellWrite position cell).toList ++
  (if r.action = .execute .halt then [.halt r.number] else [])

def observe (r : Report) (depth : Nat) (t : Tracer) : Tracer :=
  if t.enabled then
    (eventsOf r depth).foldl (fun t event => t.record event) { t with step := r.number }
  else t

def breakpointHit (position : Position) (t : Tracer) : Tracer :=
  t.record (.breakpointHit position)

def fault (message : String) (t : Tracer) : Tracer :=
  t.record (.fault message)

def clear (t : Tracer) : Tracer :=
  { t with log := t.log.clear }

-- The lines echoed since the last time, in order, and the tracer without them.
def takeEchoed (t : Tracer) : List String × Tracer :=
  (t.echoed.reverse, { t with echoed := [] })

end Tracer

end Befunge
