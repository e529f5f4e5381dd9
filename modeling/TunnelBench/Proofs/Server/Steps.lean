import TunnelBench.Server.Service

/-!
# The steps of a running server

Each step is said once: when it can be taken, and what it leaves. A step changes one
connection at most and logs about no other one. What every step preserves holds in all
states that a server can reach.
-/
namespace TunnelBench

namespace Channel

/-- The moves that the task of a served connection can make, and what they lead to. -/
inductive Works (config : ServerConfig) (handler : Handler) (channel : Channel) :
    TaskMove → Channel → List Event → Prop
  /-- Some bytes are received as one piece. -/
  | receive {count : Nat} {piece rest : Bytes} (given : piece ≠ [])
      (split : channel.pending = piece ++ rest) :
      Works config handler channel (.receive count)
        { channel with heard := channel.heard ++ [.data piece], pending := rest } []
  /-- Some more of the answer is sent. -/
  | answer (count : Nat) :
      Works config handler channel (.answer count)
        { channel with
          sent := (channel.outlook config handler).sent.take (channel.sent.length + count) } []
  /-- The warnings so far are logged. -/
  | report :
      Works config handler channel .report
        { channel with logged := (channel.outlook config handler).warnings.length }
        ((channel.outlook config handler).warnings.drop channel.logged)
  /-- All is sent and logged but the failure. -/
  | finish (spoken : (channel.outlook config handler).timedOut = false)
      (sent : channel.sent = (channel.outlook config handler).sent)
      (logged : channel.logged = (channel.outlook config handler).warnings.length) :
      Works config handler channel .finish { channel with phase := .finished }
        (Connection.failureEvent (channel.outlook config handler).outcome)
  /-- The task is given up. -/
  | interrupt (cause : Interruption) :
      Works config handler channel (.interrupt cause) { channel with phase := .interrupted }
        [.connectionFailed (channel.failureOf config cause)]

variable {config : ServerConfig} {handler : Handler} {channel later : Channel}
  {events : List Event}

/-- Only the task of a served connection moves, and in one of the five ways. -/
theorem works_of_work {move : TaskMove}
    (worked : channel.work config handler move = some (later, events)) :
    channel.phase = .served ∧ channel.Works config handler move later events := by
  unfold work at worked
  dsimp only at worked
  split at worked
  · contradiction
  · rename_i served
    refine ⟨by simpa using served, ?_⟩
    cases move with
    | receive count =>
      dsimp only at worked
      split at worked
      · contradiction
      · rename_i byte bytes taken
        cases worked
        refine .receive (by simp) ?_
        rw [← taken, List.take_append_drop]
    | answer count =>
      cases worked
      exact .answer count
    | report =>
      cases worked
      exact .report
    | finish =>
      dsimp only at worked
      split at worked
      · contradiction
      · rename_i done
        cases worked
        simp only [Bool.or_eq_true, decide_eq_true_eq, not_or, Bool.not_eq_true, ne_eq,
          Decidable.not_not] at done
        exact .finish done.1.1 done.1.2 done.2
    | interrupt cause =>
      cases worked
      exact .interrupt cause

/-- A task leaves its connection served, or ends. -/
theorem Works.phase_of_served {move : TaskMove}
    (works : channel.Works config handler move later events) (served : channel.phase = .served) :
    later.phase = .served ∨ later.phase = .finished ∨ later.phase = .interrupted := by
  cases works with
  | receive => exact .inl served
  | answer => exact .inl served
  | report => exact .inl served
  | finish => exact .inr (.inl rfl)
  | interrupt => exact .inr (.inr rfl)

/-- A connection with a task is decided about for good. -/
theorem Works.phase_ne_waiting {move : TaskMove}
    (works : channel.Works config handler move later events) (served : channel.phase = .served) :
    later.phase ≠ .waiting := by
  obtain goesOn | finished | interrupted := works.phase_of_served served
  · simp [goesOn]
  · simp [finished]
  · simp [interrupted]

/-- A task logs the warnings of its handler and failures. -/
theorem Works.logs {move : TaskMove} (works : channel.Works config handler move later events)
    {event : Event} (member : event ∈ events) :
    event ∈ (channel.outlook config handler).warnings ∨
      ∃ failure, event = .connectionFailed failure := by
  cases works with
  | receive => contradiction
  | answer => contradiction
  | report => exact .inl (List.mem_of_mem_drop member)
  | finish =>
    unfold Connection.failureEvent at member
    split at member
    · contradiction
    · exact .inr ⟨_, List.mem_singleton.1 member⟩
  | interrupt => exact .inr ⟨_, List.mem_singleton.1 member⟩

/-- A client changes neither what becomes of its connection nor what the server has done. -/
theorem move_eq_some {move : ClientMove} (moved : channel.move move = some later) :
    later.phase = channel.phase ∧ later.heard = channel.heard ∧ later.sent = channel.sent ∧
      later.logged = channel.logged := by
  cases move with
  | send bytes =>
    simp only [Channel.move] at moved
    split at moved
    · contradiction
    · cases moved
      exact ⟨rfl, rfl, rfl, rfl⟩
  | close =>
    cases moved
    exact ⟨rfl, rfl, rfl, rfl⟩

end Channel

/-- The connection that the accept loop is deciding about. -/
def Gate.connection? : Gate → Option Nat
  | .idle => none
  | .accepted connection => some connection
  | .counted connection _ => some connection
  | .closed => none

/-- What replacing an element does to a count of elements. -/
theorem countP_set_add {α : Type} (test : α → Bool) {elements : List α} {place : Nat}
    {old : α} (present : elements[place]? = some old) (new : α) :
    (elements.set place new).countP test + (if test old then 1 else 0) =
      elements.countP test + (if test new then 1 else 0) := by
  obtain ⟨inside, rfl⟩ := List.getElem?_eq_some_iff.1 present
  have counted := List.boole_getElem_le_countP (p := test) inside
  rw [List.countP_set inside]
  omega

namespace Service

variable {config : ServerConfig} {handler : Handler} {service next : Service}

/-- The steps that a server can take, and what they lead to. -/
inductive Takes (config : ServerConfig) (handler : Handler) (service : Service) :
    Action → Service → Prop
  | connect (listening : service.gate ≠ .closed) :
      Takes config handler service .connect
        { service with channels := service.channels ++ [{}] }
  | client {connection : Nat} {move : ClientMove} {channel later : Channel}
      (present : service.channels[connection]? = some channel)
      (moved : channel.move move = some later) :
      Takes config handler service (.client connection move)
        (service.update connection later [])
  | accept (idle : service.gate = .idle) (waits : service.taken < service.channels.length) :
      Takes config handler service .accept
        { service with gate := .accepted service.taken, taken := service.taken + 1 }
  /-- The loop takes no connection, logs the error and goes on. -/
  | fail (error : IoError) (idle : service.gate = .idle) :
      Takes config handler service (.fail error)
        { service with log := service.log ++ [(none, .acceptFailed error)] }
  | load {connection : Nat} (accepted : service.gate = .accepted connection) :
      Takes config handler service .load
        { service with gate := .counted connection service.counter.toNat }
  /-- A connection is counted in, and its task starts. -/
  | enter {connection current : Nat} {channel : Channel}
      (counted : service.gate = .counted connection current)
      (present : service.channels[connection]? = some channel)
      (room : current < config.maxConnections) :
      Takes config handler service .decide
        { service.update connection { channel with phase := .served } [] with
          gate := .idle
          counter := service.counter + 1 }
  /-- A connection is turned away. -/
  | reject {connection current : Nat} {channel : Channel}
      (counted : service.gate = .counted connection current)
      (present : service.channels[connection]? = some channel)
      (crowded : config.maxConnections ≤ current) :
      Takes config handler service .decide
        { service.update connection { channel with phase := .rejected }
            [.connectionRejected current config.maxConnections] with
          gate := .idle }
  | shutdown (idle : service.gate = .idle) :
      Takes config handler service .shutdown { service with gate := .closed }
  /-- A task goes on. -/
  | work {connection : Nat} {move : TaskMove} {channel later : Channel} {events : List Event}
      (present : service.channels[connection]? = some channel)
      (served : channel.phase = .served)
      (works : channel.Works config handler move later events)
      (goesOn : later.phase = .served) :
      Takes config handler service (.task connection move)
        (service.update connection later events)
  /-- A task ends, and counts its connection out. -/
  | leave {connection : Nat} {move : TaskMove} {channel later : Channel} {events : List Event}
      (present : service.channels[connection]? = some channel)
      (served : channel.phase = .served)
      (works : channel.Works config handler move later events)
      (ends : later.phase ≠ .served) :
      Takes config handler service (.task connection move)
        { service.update connection later events with counter := service.counter - 1 }

/-- Every step is one of these. -/
theorem takes_of_step {action : Action} (stepped : service.step config handler action = some next) :
    service.Takes config handler action next := by
  cases action with
  | connect =>
    simp only [step] at stepped
    split at stepped
    · contradiction
    · rename_i listening
      cases stepped
      exact .connect listening
  | client connection move =>
    simp only [step, bind, Option.bind_eq_some_iff] at stepped
    obtain ⟨channel, present, later, moved, result⟩ := stepped
    cases result
    exact .client present moved
  | accept =>
    simp only [step] at stepped
    split at stepped
    · rename_i ready
      cases stepped
      exact .accept ready.1 ready.2
    · contradiction
  | fail error =>
    simp only [step] at stepped
    split at stepped
    · rename_i idle
      cases stepped
      exact .fail error idle
    · contradiction
  | load =>
    simp only [step] at stepped
    split at stepped
    · rename_i accepted
      cases stepped
      exact .load accepted
    · contradiction
  | decide =>
    simp only [step] at stepped
    split at stepped
    · rename_i connection current counted
      simp only [bind, Option.bind_eq_some_iff] at stepped
      obtain ⟨channel, present, result⟩ := stepped
      cases result
      unfold resolve
      split
      · rename_i room
        exact .enter counted present (of_decide_eq_true room)
      · rename_i crowded
        refine .reject counted present ?_
        simpa [Admission.admits] using crowded
    · contradiction
  | shutdown =>
    simp only [step] at stepped
    split at stepped
    · rename_i idle
      cases stepped
      exact .shutdown idle
    · contradiction
  | task connection move =>
    simp only [step, bind, Option.bind_eq_some_iff] at stepped
    obtain ⟨channel, present, ⟨later, events⟩, worked, result⟩ := stepped
    obtain ⟨served, works⟩ := Channel.works_of_work worked
    dsimp only at result
    split at result
    · rename_i goesOn
      cases result
      exact .work present served works goesOn
    · rename_i ends
      cases result
      exact .leave present served works ends

/-- What holds at the start and is kept by every step holds after any steps. -/
theorem invariant_of_steps (holds : Service → Prop)
    (kept : ∀ {service next : Service} {action : Action}, holds service →
      service.step config handler action = some next → holds next)
    {actions : List Action} (start : holds service)
    (reached : service.steps config handler actions = some next) : holds next := by
  induction actions generalizing service with
  | nil =>
    cases reached
    exact start
  | cons action rest ih =>
    simp only [steps, List.foldlM_cons, bind, Option.bind_eq_some_iff] at reached
    obtain ⟨middle, stepped, later⟩ := reached
    exact ih (kept start stepped) later

/-- Replacing a connection leaves the others. -/
theorem getElem?_update {connection other : Nat} {channel later : Channel} {events : List Event}
    (present : service.channels[connection]? = some channel) :
    (service.update connection later events).channels[other]? =
      if other = connection then some later else service.channels[other]? := by
  obtain ⟨inside, _⟩ := List.getElem?_eq_some_iff.1 present
  simp only [update, List.getElem?_set, inside, ↓reduceIte, eq_comm]

/-- Events are logged about one connection. -/
theorem eventsOf_update (service : Service) (connection other : Nat) (later : Channel)
    (events : List Event) :
    (service.update connection later events).eventsOf other =
      service.eventsOf other ++ if other = connection then events else [] := by
  simp only [update, eventsOf, List.filter_append, List.map_append]
  congr 1
  split
  · rename_i same
    subst same
    simp [List.filter_map, Function.comp_def]
  · rename_i different
    simp [List.filter_map, Function.comp_def, Ne.symm different]

/-- An event about no connection is logged about none. -/
theorem eventsOf_fail (service : Service) (connection : Nat) (event : Event) :
    eventsOf { service with log := service.log ++ [(none, event)] } connection =
      service.eventsOf connection := by
  simp [eventsOf, List.filter_append]

/-- The number of served connections after one of them has changed. -/
theorem served_update {connection : Nat} {channel : Channel}
    (present : service.channels[connection]? = some channel) (later : Channel)
    (events : List Event) :
    (service.update connection later events).served +
        (if channel.phase = .served then 1 else 0) =
      service.served + (if later.phase = .served then 1 else 0) := by
  have counted := countP_set_add (fun channel : Channel => channel.phase = .served) present later
  simp only [decide_eq_true_eq] at counted
  exact counted

end Service
end TunnelBench
