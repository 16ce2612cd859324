import Befunge.Proofs.Session.Restart

/-!
What an echoing tracer says. Every event that it is offered while it is on, and that passes its filter,
becomes a record under the next number, and its line is echoed in the format of the moment. The line is
made of the newest record that is held: a tracer whose log has no room makes its records and stays silent.
-/
set_option autoImplicit false

namespace Befunge

theorem Window.newest_push {α : Type} (a : α) (w : Window α) :
    (w.push a).newest? = if w.capacity = 0 then none else some a := by
  rw [newest_eq_head, newest_first_push, List.head?_take]
  rfl

namespace Trace

-- The records that these events become, under consecutive numbers.
def recorded (first : Nat) (time : UInt64) (told : List (UInt64 × Event)) : List Record :=
  (numbered first told).map fun entry => { id := entry.1, step := entry.2.1, time, event := entry.2.2 }

theorem recorded_append (first : Nat) (time : UInt64) (told later : List (UInt64 × Event)) :
    recorded first time (told ++ later) =
      recorded first time told ++ recorded (first + told.length) time later := by
  rw [recorded, numbered_append, List.map_append]
  rfl

theorem length_recorded (first : Nat) (time : UInt64) (told : List (UInt64 × Event)) :
    (recorded first time told).length = told.length := by
  rw [recorded, numbered, List.length_map, List.length_map, List.length_zipIdx]

theorem untimed_recorded (first : Nat) (time : UInt64) (told : List (UInt64 × Event)) :
    (recorded first time told).map Record.untimed = numbered first told := by
  rw [recorded, List.map_map]
  exact List.map_id _

end Trace

namespace Tracer

-- What a tracer is asked to do, and the ticks of its clock.
inductive Operation where
  | enable
  | disable
  | setJson (json : Bool)
  | record (event : Trace.Event)
  | observe (report : Report) (depth : Nat)
  | breakpointHit (position : Position)
  | fault (message : String)
  | clear
  | tick (now : UInt64)

def perform (t : Tracer) : Operation → Tracer
  | .enable => { t with enabled := true }
  | .disable => { t with enabled := false }
  | .setJson json => { t with json }
  | .record event => t.record event
  | .observe report depth => t.observe report depth
  | .breakpointHit position => t.breakpointHit position
  | .fault message => t.fault message
  | .clear => t.clear
  | .tick now => { t with now }

def performs (t : Tracer) (operations : List Operation) : Tracer :=
  operations.foldl perform t

-- The events that an operation has for the tracer, each with the step that it belongs to.
def offers (t : Tracer) : Operation → List (UInt64 × Trace.Event)
  | .record event => [(t.step, event)]
  | .observe report depth => (eventsOf report depth).map (report.number, ·)
  | .breakpointHit position => [(t.step, .breakpointHit position)]
  | .fault message => [(t.step, .fault message)]
  | .enable | .disable | .setJson _ | .clear | .tick _ => []

-- Those of them that it takes.
def takes (t : Tracer) (op : Operation) : List (UInt64 × Trace.Event) :=
  if t.enabled then (t.offers op).filter (Trace.passes t.kinds) else []

def made (t : Tracer) (told : List (UInt64 × Trace.Event)) : List Trace.Record :=
  Trace.recorded t.log.nextId t.now told

-- All events that are taken while the operations are performed.
def taken (t : Tracer) : List Operation → List (UInt64 × Trace.Event)
  | [] => []
  | op :: rest => t.takes op ++ (t.perform op).taken rest

-- Their records, each with its line in the format of the moment.
def account (t : Tracer) : List Operation → List (Trace.Record × String)
  | [] => []
  | op :: rest => (t.made (t.takes op)).map (fun r => (r, t.formatRecord r)) ++ (t.perform op).account rest

-- Between the two, these lines were due. None was echoed if the log has no room.
structure Echoes (before : Tracer) (lines : List String) (after : Tracer) : Prop where
  echo : after.echo = before.echo
  capacity : after.log.window.capacity = before.log.window.capacity
  nextId : after.log.nextId = before.log.nextId + lines.length
  echoed : after.echoed = (if before.log.window.capacity = 0 then [] else lines.reverse) ++ before.echoed

theorem echoes_nothing (t : Tracer) : t.Echoes [] t where
  echo := rfl
  capacity := rfl
  nextId := rfl
  echoed := by rw [List.reverse_nil, ite_self, List.nil_append]

theorem echoes_append (before middle after : Tracer) (lines later : List String)
    (first : before.Echoes lines middle) (second : middle.Echoes later after) :
    before.Echoes (lines ++ later) after where
  echo := second.echo.trans first.echo
  capacity := second.capacity.trans first.capacity
  nextId := by rw [second.nextId, first.nextId, List.length_append, Nat.add_assoc]
  echoed := by
    rw [second.echoed, first.echoed, first.capacity]
    split
    · rfl
    · rw [List.reverse_append, List.append_assoc]

theorem echo_last_push (t : Tracer) (event : Trace.Event) :
    { t with log := t.log.push t.step t.now event : Tracer }.echoLast =
      { t with
        log := t.log.push t.step t.now event
        echoed := (if t.log.window.capacity = 0 then []
          else (t.made [(t.step, event)]).map t.formatRecord) ++ t.echoed } := by
  rw [echoLast, Trace.Log.last?, Trace.Log.push, Window.newest_push]
  by_cases full : t.log.window.capacity = 0
  · rw [if_pos full, if_pos full]
    rfl
  · rw [if_neg full, if_neg full]
    rfl

theorem record_of_rejected (t : Tracer) (event : Trace.Event) (rejected : t.accepts event = false) :
    t.record event = t := by
  simp [record, rejected]

theorem record_of_accepted (t : Tracer) (event : Trace.Event) (enabled : t.enabled = true)
    (echo : t.echo = true) (accepted : t.accepts event = true) :
    t.record event = { t with log := t.log.push t.step t.now event : Tracer }.echoLast := by
  simp [record, enabled, echo, accepted]

theorem echoes_accepted (t : Tracer) (event : Trace.Event) (enabled : t.enabled = true) (echo : t.echo = true) :
    t.Echoes ((t.made ([(t.step, event)].filter (Trace.passes t.kinds))).map t.formatRecord)
      (t.record event) := by
  cases passed : Trace.passes t.kinds (t.step, event) with
  | false =>
      rw [record_of_rejected t event ((accepts_eq_passes t t.step event).trans passed),
        List.filter_cons_of_neg (by simp [passed])]
      exact echoes_nothing t
  | true =>
      rw [record_of_accepted t event enabled echo ((accepts_eq_passes t t.step event).trans passed),
        List.filter_cons_of_pos passed, echo_last_push]
      exact
        { echo := rfl
          capacity := Window.capacity_push _ _
          nextId := rfl
          echoed := rfl }

theorem format_now_record (t : Tracer) (event : Trace.Event) (enabled : t.enabled = true) :
    (t.record event).formatRecord = t.formatRecord ∧ (t.record event).now = t.now := by
  rw [record_eq t event enabled]
  exact ⟨rfl, rfl⟩

-- By induction on the events: a record changes nothing that the lines after it depend on but the number.
theorem echoes_records (events : List Trace.Event) (t : Tracer) (enabled : t.enabled = true)
    (echo : t.echo = true) :
    t.Echoes ((t.made ((events.map (t.step, ·)).filter (Trace.passes t.kinds))).map t.formatRecord)
      (events.foldl (fun t event => t.record event) t) := by
  induction events generalizing t with
  | nil => exact echoes_nothing t
  | cons event rest ih =>
      obtain ⟨on, kinds, _⟩ := offered_record t event enabled
      obtain ⟨format, now⟩ := format_now_record t event enabled
      have first := echoes_accepted t event enabled echo
      have later := ih (t.record event) (on.trans enabled) (first.echo.trans echo)
      have count := first.nextId
      rw [List.length_map, made, Trace.length_recorded] at count
      rw [format, made, count, step_record, now, kinds] at later
      rw [List.map_cons, ← List.singleton_append, List.filter_append, made, Trace.recorded_append,
        List.map_append]
      exact echoes_append _ _ _ _ _ first later

theorem echoes_record (t : Tracer) (event : Trace.Event) (echo : t.echo = true) :
    t.Echoes ((t.made (t.takes (.record event))).map t.formatRecord) (t.record event) := by
  cases enabled : t.enabled with
  | true =>
      rw [takes, if_pos enabled]
      exact echoes_accepted t event enabled echo
  | false =>
      rw [takes, if_neg (by simp [enabled]), record_of_disabled t event enabled]
      exact echoes_nothing t

theorem echoes_observe (t : Tracer) (report : Report) (depth : Nat) (echo : t.echo = true) :
    t.Echoes ((t.made (t.takes (.observe report depth))).map t.formatRecord) (t.observe report depth) := by
  cases enabled : t.enabled with
  | true =>
      obtain ⟨on, capacity, count, echoed⟩ :=
        echoes_records (eventsOf report depth) { t with step := report.number } enabled echo
      rw [takes, if_pos enabled, observe, if_pos enabled]
      exact ⟨on, capacity, count, echoed⟩
  | false =>
      rw [takes, if_neg (by simp [enabled]), observe, if_neg (by simp [enabled])]
      exact echoes_nothing t

theorem takes_nothing (t : Tracer) (op : Operation) (none : t.offers op = []) : t.takes op = [] := by
  rw [takes, none, List.filter_nil, ite_self]

theorem echoes_perform (t : Tracer) (op : Operation) (echo : t.echo = true) :
    t.Echoes ((t.made (t.takes op)).map t.formatRecord) (t.perform op) := by
  cases op with
  | record event => exact echoes_record t event echo
  | observe report depth => exact echoes_observe t report depth echo
  | breakpointHit position => exact echoes_record t (.breakpointHit position) echo
  | fault message => exact echoes_record t (.fault message) echo
  | enable | disable | setJson | clear | tick =>
      rw [takes_nothing t _ rfl]
      exact ⟨rfl, rfl, rfl, (echoes_nothing t).echoed⟩

theorem echoes_performs (operations : List Operation) (t : Tracer) (echo : t.echo = true) :
    t.Echoes ((t.account operations).map Prod.snd) (t.performs operations) := by
  induction operations generalizing t with
  | nil => exact echoes_nothing t
  | cons op rest ih =>
      have first := echoes_perform t op echo
      have later := ih (t.perform op) (first.echo.trans echo)
      have lines : ((t.made (t.takes op)).map (fun r => (r, t.formatRecord r))).map Prod.snd =
          (t.made (t.takes op)).map t.formatRecord := List.map_map
      rw [account, List.map_append, lines]
      exact echoes_append _ _ _ _ _ first later

theorem account_records (operations : List Operation) (t : Tracer) (echo : t.echo = true) :
    (t.account operations).map (fun entry => entry.1.untimed) =
      Trace.numbered t.log.nextId (t.taken operations) := by
  induction operations generalizing t with
  | nil => rfl
  | cons op rest ih =>
      have first := echoes_perform t op echo
      have count := first.nextId
      rw [List.length_map, made, Trace.length_recorded] at count
      have records : ((t.made (t.takes op)).map (fun r => (r, t.formatRecord r))).map
          (fun entry => entry.1.untimed) = Trace.numbered t.log.nextId (t.takes op) := by
        rw [List.map_map]
        exact Trace.untimed_recorded _ _ _
      rw [account, List.map_append, records, ih _ (first.echo.trans echo), count, taken,
        Trace.numbered_append]

theorem taken_events_are_echoed (t : Tracer) (operations : List Operation) (echo : t.echo = true) :
    let account := t.account operations
    let after := t.performs operations
    account.map (fun entry => entry.1.untimed) = Trace.numbered t.log.nextId (t.taken operations) ∧
      after.log.nextId = t.log.nextId + account.length ∧
      (0 < t.log.window.capacity →
        after.takeEchoed.1 = t.takeEchoed.1 ++ account.map Prod.snd) ∧
      (t.log.window.capacity = 0 → after.takeEchoed.1 = t.takeEchoed.1) := by
  intro account after
  obtain ⟨_, _, count, echoed⟩ := echoes_performs operations t echo
  rw [List.length_map] at count
  refine ⟨account_records operations t echo, count, ?_, ?_⟩
  · intro room
    rw [if_neg (Nat.ne_of_gt room)] at echoed
    rw [takeEchoed, takeEchoed, echoed, List.reverse_append, List.reverse_reverse]
  · intro full
    rw [if_pos full, List.nil_append] at echoed
    rw [takeEchoed, takeEchoed, echoed]

-- A tracer that is off at first, has room for one record and does not ask for cells written.
def terse : Tracer :=
  { echo := true, kinds := ["output", "fault"], log := .empty 1 }

def printing : Report where
  number := 7
  position := ⟨4, 0⟩
  cell := '.'
  action := .execute .printInt
  direction := .right
  next := ⟨5, 0⟩
  effects := { emitted := some "42" }

def fiddling : List Operation :=
  [.fault "too soon", .enable, .fault "first", .tick 30, .observe printing 0, .setJson true, .clear,
    .breakpointHit ⟨1, 0⟩, .fault "last", .disable, .fault "too late"]

theorem taken_events_are_echoed_by_a_tracer_of_one_record :
    terse.echo = true ∧ 0 < terse.log.window.capacity ∧
      (terse.performs fiddling).takeEchoed.1 =
        ["S000000   FAULT first",
          "S000007   OUTPUT \"42\"",
          "\x7b\"id\":2,\"step\":7,\"timestamp_ns\":30,\"type\":\"fault\",\"message\":\"last\"\x7d"] ∧
      (terse.performs fiddling).log.untimed = [(2, 7, .fault "last")] := by
  obtain ⟨_, _, echoed, _⟩ := taken_events_are_echoed terse fiddling rfl
  exact ⟨rfl, by decide, (echoed (by decide)).trans (by decide +kernel), by decide +kernel⟩

-- Nothing stays in a log without room, so there is no newest record to echo.
theorem tracer_without_room_is_silent :
    let roomless : Tracer := { enabled := true, echo := true, log := .empty 0 }
    roomless.account [.fault "x"] = [(⟨0, 0, 0, .fault "x"⟩, "S000000   FAULT x")] ∧
      (roomless.performs [.fault "x"]).takeEchoed.1 = [] := by
  decide +kernel

end Tracer

end Befunge
