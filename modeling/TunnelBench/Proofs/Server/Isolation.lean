import TunnelBench.Proofs.Server.Admission
import TunnelBench.Proofs.Server.Channels

/-!
# Connections side by side

Any number of connections share a handler, a counter and a log. Each of them gets what
its own stream gets alone, whatever the others do and in whichever order the steps are
taken. A connection that is opened while there is room is not turned away; and what has
been counted in can be served to its end by its own steps, also after the loop has ended.
-/
namespace TunnelBench.Service

variable {config : ServerConfig} {handler : Handler} {service next : Service} {action : Action}

/-- All connections are sound. -/
def Sound (config : ServerConfig) (handler : Handler) (service : Service) : Prop :=
  ∀ (connection : Nat) (channel : Channel), service.channels[connection]? = some channel →
    channel.Sound config handler (service.eventsOf connection)

/-- A sound change of one connection leaves all sound. -/
theorem Sound.update (sound : service.Sound config handler) {connection : Nat} {channel : Channel}
    (present : service.channels[connection]? = some channel) (later : Channel)
    (events : List Event)
    (changed : later.Sound config handler (service.eventsOf connection ++ events)) :
    (service.update connection later events).Sound config handler := by
  intro other found member
  rw [getElem?_update present] at member
  rw [eventsOf_update]
  split at member
  · rename_i here
    subst here
    cases member
    rw [if_pos rfl]
    exact changed
  · rename_i elsewhere
    rw [if_neg elsewhere, List.append_nil]
    exact sound other found member

/-- Every step leaves all connections sound. -/
theorem Sound.step (standard : handler.Standard) (queued : service.Queued)
    (spared : service.Spared config) (sound : service.Sound config handler)
    (stepped : service.step config handler action = some next) : next.Sound config handler := by
  cases takes_of_step stepped with
  | connect listening =>
    intro other found member
    rw [List.getElem?_append] at member
    split at member
    · exact sound other found member
    · cases List.mem_singleton.1 (List.mem_of_getElem? member)
      exact Channel.sound_of_idle Source.full_nil (.inl rfl)
  | @client connection move channel later present moved =>
    have before := sound connection channel present
    obtain ⟨phase, _, sent, logged⟩ := Channel.move_eq_some moved
    refine sound.update present later [] ?_
    rw [List.append_nil]
    exact before.extends standard (Channel.extends_of_move before.full moved) phase sent logged
  | accept idle waits => exact sound
  | fail error idle =>
    intro connection channel present
    rw [eventsOf_fail]
    exact sound connection channel present
  | load accepted => exact sound
  | @enter connection current channel looking present room =>
    have waiting := queued.waiting_of_held (by rw [looking]; rfl) present
    obtain ⟨heard, sent, logged, nothing⟩ := spared.waiting connection channel present waiting
    refine sound.update present { channel with phase := .served } [] ?_
    rw [nothing]
    refine ⟨(sound connection channel present).full, fun _ => ?_, by simp, by simp⟩
    rw [sent, logged]
    exact ⟨List.nil_prefix, List.nil_prefix, rfl⟩
  | @reject connection current channel looking present crowded =>
    refine sound.update present { channel with phase := .rejected }
      [.connectionRejected current config.maxConnections] ?_
    exact Channel.sound_of_idle (sound connection channel present).full (.inr rfl)
  | shutdown idle => exact sound
  | @work connection move channel later events present served works goesOn =>
    have before := sound connection channel present
    exact sound.update present later events (before.works standard served works)
  | @leave connection move channel later events present served works ends =>
    have before := sound connection channel present
    exact sound.update present later events (before.works standard served works)

/-- The number of connections before a place that are open. -/
def openedBefore (service : Service) (place : Nat) : Nat :=
  (service.channels.take place).countP (·.isOpen)

/-- A connection that does not open again opens none. -/
theorem openedBefore_update {connection : Nat} {channel : Channel}
    (present : service.channels[connection]? = some channel) (later : Channel)
    (events : List Event)
    (closes : later.isOpen = true → channel.isOpen = true) (place : Nat) :
    (service.update connection later events).openedBefore place ≤ service.openedBefore place := by
  unfold openedBefore Service.update
  dsimp only
  rw [List.take_set]
  by_cases before : connection < place
  · have counted := countP_set_add (·.isOpen)
      ((List.getElem?_take_of_lt before).trans present) later
    cases open_ : later.isOpen with
    | true =>
      rw [open_, closes open_] at counted
      exact Nat.le_of_eq (Nat.add_right_cancel counted)
    | false =>
      simp only [open_, Bool.false_eq_true, ↓reduceIte, Nat.add_zero] at counted
      omega
  · have outside : (service.channels.take place).length ≤ connection := by
      rw [List.length_take]
      omega
    have same : (service.channels.take place).set connection later =
        service.channels.take place := List.set_eq_of_length_le outside
    exact Nat.le_of_eq (by rw [same])

/-- When the loop has just taken a connection, all that are served came before it. -/
theorem Queued.served_le (queued : service.Queued) {connection : Nat}
    (held : service.gate.connection? = some connection) :
    service.served ≤ service.openedBefore connection := by
  have last := queued.held connection held
  have later : (service.channels.drop connection).countP (·.phase = .served) = 0 := by
    rw [List.countP_eq_zero]
    intro channel member
    obtain ⟨place, found⟩ := List.mem_iff_getElem?.1 member
    rw [List.getElem?_drop] at found
    have waiting := (queued.waits (connection + place) channel found).2
    have undecided : service.taken ≤ connection + place ∨
        service.gate.connection? = some (connection + place) := by
      by_cases first : place = 0
      · subst first
        exact .inr held
      · exact .inl (by omega)
    simp [waiting undecided]
  unfold served openedBefore
  rw [← List.take_append_drop connection service.channels, List.countP_append, later,
    Nat.add_zero, List.take_append_drop]
  exact List.countP_mono_left fun channel _ serves => by
    simp only [decide_eq_true_eq] at serves
    simp [Channel.isOpen, serves]

/-- There is room for a connection, or it has been counted in. -/
structure Roomy (config : ServerConfig) (service : Service) (connection : Nat) : Prop where
  opened : connection < service.channels.length
  kept : service.phase? connection ≠ some .rejected
  room : service.phase? connection = some .waiting →
    service.openedBefore connection < config.maxConnections ∧
      ∀ current, service.gate = .counted connection current → current < config.maxConnections

/-- A change of a connection keeps the room for another, if it does not open one. -/
theorem Roomy.update {place : Nat} (roomy : service.Roomy config place) {connection : Nat}
    {channel : Channel} {gate : Gate} {counter : UInt64}
    (present : service.channels[connection]? = some channel) (later : Channel)
    (events : List Event)
    (closes : later.isOpen = true → channel.isOpen = true)
    (decided : connection = place → later.phase = channel.phase ∨
      later.phase ≠ .waiting ∧ later.phase ≠ .rejected)
    (looked : gate = service.gate ∨ gate = .idle) :
    Roomy config { service.update connection later events with gate, counter } place := by
  have fewer := openedBefore_update present later events closes place
  have phase : phase? { service.update connection later events with gate, counter } place =
      if place = connection then some later.phase else service.phase? place := by
    change (service.update connection later events).phase? place = _
    unfold phase?
    rw [getElem?_update present]
    split <;> rfl
  have gated : ∀ current, gate = .counted place current →
      service.gate = .counted place current := by
    intro current same
    obtain rfl | rfl := looked
    · exact same
    · contradiction
  obtain ⟨opened, kept, room⟩ := roomy
  refine ⟨?_, ?_, fun waits => ?_⟩
  · dsimp only [Service.update]
    rwa [List.length_set]
  · rw [phase]
    split
    · rename_i here
      subst here
      obtain same | ⟨_, unrejected⟩ := decided rfl
      · rw [phase?, present] at kept
        rwa [same]
      · simpa using unrejected
    · exact kept
  · rw [phase] at waits
    have before : service.phase? place = some .waiting := by
      split at waits
      · rename_i here
        subst here
        obtain same | ⟨decidedPhase, _⟩ := decided rfl
        · rw [phase?, present, ← waits, same]
          rfl
        · exact absurd (Option.some.inj waits) decidedPhase
      · exact waits
    obtain ⟨less, looks⟩ := room before
    exact ⟨Nat.lt_of_le_of_lt fewer less, fun current same => looks current (gated current same)⟩

/-- A task opens no connection. -/
theorem closes_of_works {channel later : Channel} (served : channel.phase = .served) :
    later.isOpen = true → channel.isOpen = true := fun _ => by simp [Channel.isOpen, served]

/-- A connection for which there is room is not turned away by any step. -/
theorem Roomy.step (queued : service.Queued) (counted : service.Counted config) {place : Nat}
    (roomy : service.Roomy config place)
    (stepped : service.step config handler action = some next) : next.Roomy config place := by
  cases takes_of_step stepped with
  | connect listening =>
    have same : phase? { service with channels := service.channels ++ [{}] } place =
        service.phase? place := by
      unfold phase?
      rw [List.getElem?_append_left roomy.opened]
    have before : openedBefore { service with channels := service.channels ++ [{}] } place =
        service.openedBefore place := by
      unfold openedBefore
      rw [List.take_append_of_le_length (Nat.le_of_lt roomy.opened)]
    refine ⟨?_, ?_, ?_⟩
    · dsimp only
      rw [List.length_append]
      exact Nat.lt_add_right _ roomy.opened
    · rw [same]
      exact roomy.kept
    · rw [same, before]
      exact roomy.room
  | @client connection move channel later present moved =>
    have phase := (Channel.move_eq_some moved).1
    exact roomy.update present later [] (by simp [Channel.isOpen, phase])
      (fun _ => .inl phase) (.inl rfl)
  | accept idle waits =>
    exact ⟨roomy.opened, roomy.kept, fun waiting => ⟨(roomy.room waiting).1, by simp⟩⟩
  | fail error idle => exact ⟨roomy.opened, roomy.kept, roomy.room⟩
  | @load connection accepted =>
    refine ⟨roomy.opened, roomy.kept, fun waiting => ⟨(roomy.room waiting).1, ?_⟩⟩
    intro current same
    cases same
    rw [counted.counter]
    exact Nat.lt_of_le_of_lt (queued.served_le (by rw [accepted]; rfl)) (roomy.room waiting).1
  | @enter connection current channel looking present room =>
    have waiting := queued.waiting_of_held (by rw [looking]; rfl) present
    exact roomy.update present { channel with phase := .served } []
      (by simp [Channel.isOpen, waiting]) (fun _ => .inr (by simp)) (.inr rfl)
  | @reject connection current channel looking present crowded =>
    have waiting := queued.waiting_of_held (by rw [looking]; rfl) present
    have another : connection ≠ place := by
      rintro rfl
      have seen := (roomy.room (by rw [phase?, present, ← waiting]; rfl)).2 current looking
      omega
    exact roomy.update present { channel with phase := .rejected }
      [.connectionRejected current config.maxConnections]
      (by simp [Channel.isOpen]) (fun same => absurd same another) (.inr rfl)
  | shutdown idle =>
    exact ⟨roomy.opened, roomy.kept, fun waiting => ⟨(roomy.room waiting).1, by simp⟩⟩
  | @work connection move channel later events present served works goesOn =>
    exact roomy.update present later events (closes_of_works served)
      (fun _ => .inl (goesOn.trans served.symm)) (.inl rfl)
  | @leave connection move channel later events present served works ends =>
    refine roomy.update present later events (closes_of_works served) (fun _ => .inr ?_) (.inl rfl)
    obtain goesOn | finished | interrupted := works.phase_of_served served
    · exact absurd goesOn ends
    · simp [finished]
    · simp [interrupted]

/-- Steps taken one after the other. -/
theorem steps_cons {first : Action} {rest : List Action} {middle last : Service}
    (stepped : service.step config handler first = some middle)
    (reached : steps config handler middle rest = some last) :
    steps config handler service (first :: rest) = some last := by
  rw [steps, List.foldlM_cons, stepped]
  exact reached

/-- The steps of the accept loop while it listens. -/
def isLoop : Action → Bool
  | .accept => true
  | .load => true
  | .decide => true
  | _ => false

/-- A state to which the accept loop comes by itself. -/
def LoopReaches (config : ServerConfig) (handler : Handler) (service last : Service) : Prop :=
  ∃ actions, (∀ action ∈ actions, isLoop action = true) ∧
    steps config handler service actions = some last

/-- One more step of the loop in front of the others. -/
theorem LoopReaches.after {middle last : Service}
    (reached : middle.LoopReaches config handler last)
    (stepped : service.step config handler action = some middle) (loop : isLoop action = true) :
    service.LoopReaches config handler last := by
  obtain ⟨actions, loops, reached⟩ := reached
  exact ⟨action :: actions, List.forall_mem_cons.2 ⟨loop, loops⟩, steps_cons stepped reached⟩

/-- A state to which the task of a connection comes by itself. -/
def TaskReaches (config : ServerConfig) (handler : Handler) (connection : Nat)
    (service last : Service) : Prop :=
  ∃ moves : List TaskMove, steps config handler service (moves.map (.task connection)) = some last

/-- One more move of the task in front of the others. -/
theorem TaskReaches.after {connection : Nat} {move : TaskMove} {middle last : Service}
    (reached : middle.TaskReaches config handler connection last)
    (stepped : service.step config handler (.task connection move) = some middle) :
    service.TaskReaches config handler connection last := by
  obtain ⟨moves, reached⟩ := reached
  exact ⟨move :: moves, steps_cons stepped reached⟩

/-- What is known of all connections is known of each. -/
theorem Sound.alone (standard : handler.Standard) (sound : service.Sound config handler)
    (spared : service.Spared config) {connection : Nat} {channel : Channel}
    (present : service.channels[connection]? = some channel) :
    channel.Alone config handler (service.eventsOf connection) := by
  refine (sound connection channel present).alone standard (fun waiting => ?_) fun rejected => ?_
  · obtain ⟨_, sent, _, nothing⟩ := spared.waiting connection channel present waiting
    exact ⟨sent, nothing⟩
  · obtain ⟨sent, warned⟩ := spared.rejected connection channel present rejected
    exact ⟨sent, _, _, warned⟩

end TunnelBench.Service
