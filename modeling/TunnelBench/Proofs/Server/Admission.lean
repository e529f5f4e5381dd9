import TunnelBench.Proofs.Server.Steps

/-!
# Exact admission

Only the accept loop counts connections in, one at a time, and between its look at the
counter and its decision others can only count themselves out. So the counter is always
the number of connections that are served, it never passes the limit, and a connection is
turned away only if the limit was reached when the loop looked.
-/
namespace TunnelBench.Service

/-- The loop takes connections in order, and decides about each before it takes the next. -/
structure Queued (service : Service) : Prop where
  bound : service.taken ≤ service.channels.length
  /-- The connection in hand is the last one taken. -/
  held : ∀ connection, service.gate.connection? = some connection → connection + 1 = service.taken
  /-- Undecided are the connections not taken and the one in hand. -/
  waits : ∀ connection channel, service.channels[connection]? = some channel →
    (channel.phase = .waiting ↔
      service.taken ≤ connection ∨ service.gate.connection? = some connection)

/-- The counter is the number of served connections, which is within the limit. -/
structure Counted (config : ServerConfig) (service : Service) : Prop where
  counter : service.counter.toNat = service.served
  bounded : service.served ≤ config.maxConnections
  /-- Since the loop looked at the counter, connections were only counted out. -/
  looked : ∀ connection current, service.gate = .counted connection current →
    service.served ≤ current ∧ current ≤ config.maxConnections

/-- What the server has done for the connections that no task serves. -/
structure Spared (config : ServerConfig) (service : Service) : Prop where
  waiting : ∀ connection channel, service.channels[connection]? = some channel →
    channel.phase = .waiting → channel.heard = [] ∧ channel.sent = [] ∧ channel.logged = 0 ∧
      service.eventsOf connection = []
  rejected : ∀ connection channel, service.channels[connection]? = some channel →
    channel.phase = .rejected → channel.sent = [] ∧ service.eventsOf connection =
      [.connectionRejected config.maxConnections config.maxConnections]
  unopened : ∀ connection, service.channels[connection]? = none → service.eventsOf connection = []

variable {config : ServerConfig} {handler : Handler} {service next : Service} {action : Action}

/-- Nothing is queued at the start. -/
theorem queued_start : Queued {} :=
  ⟨Nat.le_refl 0, by simp [Gate.connection?], by simp⟩

/-- A connection that stays decided or undecided keeps its place in the queue. -/
theorem Queued.update (queued : service.Queued) {connection : Nat} {channel later : Channel}
    (present : service.channels[connection]? = some channel)
    (same : later.phase = .waiting ↔ channel.phase = .waiting) (events : List Event) :
    (service.update connection later events).Queued := by
  refine ⟨?_, queued.held, fun other found member => ?_⟩
  · rw [Service.update, List.length_set]
    exact queued.bound
  · rw [getElem?_update present] at member
    split at member
    · rename_i here
      subst here
      cases member
      rw [same]
      exact queued.waits other channel present
    · exact queued.waits other found member

/-- The connection in hand is decided about, and the loop turns to the next. -/
theorem Queued.decide (queued : service.Queued) {connection : Nat} {channel later : Channel}
    (held : service.gate.connection? = some connection)
    (present : service.channels[connection]? = some channel) (decided : later.phase ≠ .waiting)
    (events : List Event) (counter : UInt64) :
    Queued { service.update connection later events with gate := .idle, counter } := by
  have last := queued.held connection held
  refine ⟨?_, by simp [Gate.connection?], fun other found member => ?_⟩
  · dsimp only [Service.update]
    rw [List.length_set]
    exact queued.bound
  · change (service.update connection later events).channels[other]? = _ at member
    rw [getElem?_update present] at member
    change _ ↔ service.taken ≤ other ∨ none = _
    split at member
    · rename_i here
      subst here
      cases member
      have passed : ¬service.taken ≤ other := by omega
      simp [decided, passed]
    · rename_i elsewhere
      have waits := queued.waits other found member
      rw [held, Option.some.injEq] at waits
      simp [waits, Ne.symm elsewhere]

/-- Every step keeps the order of the queue. -/
theorem Queued.step (queued : service.Queued)
    (stepped : service.step config handler action = some next) : next.Queued := by
  cases takes_of_step stepped with
  | connect listening =>
    refine ⟨?_, queued.held, fun other found member => ?_⟩
    · have bound := queued.bound
      dsimp only
      rw [List.length_append]
      omega
    · rw [List.getElem?_append] at member
      split at member
      · exact queued.waits other found member
      · rename_i behind
        obtain ⟨_, rfl⟩ := List.mem_singleton.1 (List.mem_of_getElem? member)
        have bound := queued.bound
        have late : service.taken ≤ other := by omega
        simp [late]
  | client present moved =>
    exact queued.update present (by rw [(Channel.move_eq_some moved).1]) []
  | accept idle waits =>
    refine ⟨waits, fun connection same => ?_, fun other found member => ?_⟩
    · cases same
      rfl
    · have before := queued.waits other found member
      rw [idle] at before
      simp only [Gate.connection?, reduceCtorEq, or_false] at before
      simp only [before, Gate.connection?, Option.some.injEq]
      omega
  | fail error idle => exact ⟨queued.bound, queued.held, queued.waits⟩
  | load accepted =>
    have held := queued.held
    have waits := queued.waits
    rw [accepted] at held waits
    exact ⟨queued.bound, held, waits⟩
  | enter counted present room =>
    exact queued.decide (by rw [counted]; rfl) present (by simp) [] _
  | reject counted present crowded =>
    exact queued.decide (by rw [counted]; rfl) present (by simp) _ _
  | shutdown idle =>
    have held := queued.held
    have waits := queued.waits
    rw [idle] at held waits
    exact ⟨queued.bound, held, waits⟩
  | work present served works goesOn =>
    exact queued.update present (by simp [served, goesOn]) _
  | @leave connection move channel later events present served works ends =>
    have same : later.phase = .waiting ↔ channel.phase = .waiting := by
      simp [served, works.phase_ne_waiting served]
    have kept := queued.update present same events
    exact ⟨kept.bound, kept.held, kept.waits⟩

/-- The connection that is decided about is undecided. -/
theorem Queued.waiting_of_held (queued : service.Queued) {connection : Nat} {channel : Channel}
    (held : service.gate.connection? = some connection)
    (present : service.channels[connection]? = some channel) : channel.phase = .waiting :=
  (queued.waits connection channel present).2 (.inr held)

/-- Nothing is counted at the start. -/
theorem counted_start (config : ServerConfig) : Counted config {} :=
  ⟨rfl, Nat.zero_le _, by simp⟩

/-- A step that counts nothing keeps the counter exact. -/
theorem Counted.of_eq (counted : service.Counted config) (counter : next.counter = service.counter)
    (served : next.served = service.served) (gate : next.gate = service.gate) :
    next.Counted config := by
  refine ⟨?_, ?_, ?_⟩
  · rw [counter, served]
    exact counted.counter
  · rw [served]
    exact counted.bounded
  · rw [served, gate]
    exact counted.looked

/-- Counting a connection in adds one, and there is room for it in the counter. -/
theorem Counted.toNat_add (word : config.maxConnections < Admission.counterBound)
    (counted : service.Counted config) (room : service.served < config.maxConnections) :
    (service.counter + 1).toNat = service.counter.toNat + 1 := by
  have bound : service.counter.toNat + 1 < 2 ^ 64 := by
    rw [counted.counter]
    exact Nat.lt_of_le_of_lt room word
  rw [UInt64.toNat_add]
  exact Nat.mod_eq_of_lt bound

/-- Counting a connection out takes one away, and there is one to take. -/
theorem Counted.toNat_sub (counted : service.Counted config) (some : 0 < service.served) :
    (service.counter - 1).toNat + 1 = service.counter.toNat := by
  have present : 0 < service.counter.toNat := by rwa [counted.counter]
  have least : (1 : UInt64) ≤ service.counter := UInt64.le_iff_toNat_le.2 present
  rw [UInt64.toNat_sub_of_le _ _ least]
  exact Nat.sub_add_cancel present

/-- A connection that becomes served is one more. -/
theorem served_enter {connection : Nat} {channel : Channel}
    (present : service.channels[connection]? = some channel) (before : channel.phase ≠ .served)
    (later : Channel) (after : later.phase = .served) (events : List Event) :
    (service.update connection later events).served = service.served + 1 := by
  have counted := served_update present later events
  simpa only [before, after, ↓reduceIte, Nat.add_zero] using counted

/-- A connection that is served no more is one less. -/
theorem served_leave {connection : Nat} {channel later : Channel}
    (present : service.channels[connection]? = some channel) (before : channel.phase = .served)
    (after : later.phase ≠ .served) (events : List Event) :
    (service.update connection later events).served + 1 = service.served := by
  have counted := served_update present later events
  simpa only [before, after, ↓reduceIte, Nat.add_zero] using counted

/-- The number of served connections stays where a change does not concern it. -/
theorem served_same {connection : Nat} {channel : Channel}
    (present : service.channels[connection]? = some channel) (later : Channel)
    (same : later.phase = .served ↔ channel.phase = .served) (events : List Event) :
    (service.update connection later events).served = service.served := by
  have counted := served_update present later events
  simp only [same] at counted
  exact Nat.add_right_cancel counted

/-- Every step keeps the counter exact. -/
theorem Counted.step (word : config.maxConnections < Admission.counterBound)
    (queued : service.Queued) (counted : service.Counted config)
    (stepped : service.step config handler action = some next) : next.Counted config := by
  cases takes_of_step stepped with
  | connect listening =>
    refine counted.of_eq rfl ?_ rfl
    simp [Service.served]
  | client present moved =>
    exact counted.of_eq rfl (served_same present _ (by rw [(Channel.move_eq_some moved).1]) _) rfl
  | accept idle waits => exact ⟨counted.counter, counted.bounded, by simp⟩
  | fail error idle => exact counted.of_eq rfl rfl rfl
  | load accepted =>
    refine ⟨counted.counter, counted.bounded, fun connection current same => ?_⟩
    cases same
    rw [counted.counter]
    exact ⟨Nat.le_refl _, counted.bounded⟩
  | @enter connection current channel looking present room =>
    obtain ⟨fewer, _⟩ := counted.looked connection current looking
    have waiting := queued.waiting_of_held (by rw [looking]; rfl) present
    have more := served_enter present (by simp [waiting]) { channel with phase := .served } rfl []
    refine ⟨?_, ?_, by simp⟩
    · change (service.counter + 1).toNat = (service.update connection _ []).served
      rw [counted.toNat_add word (by omega), more, counted.counter]
    · change (service.update connection _ []).served ≤ _
      omega
  | @reject connection current channel looking present crowded =>
    have waiting := queued.waiting_of_held (by rw [looking]; rfl) present
    have same := served_same present { channel with phase := .rejected } (by simp [waiting])
      [.connectionRejected current config.maxConnections]
    exact ⟨counted.counter.trans same.symm, Nat.le_trans (Nat.le_of_eq same) counted.bounded,
      by simp⟩
  | shutdown idle => exact ⟨counted.counter, counted.bounded, by simp⟩
  | work present served works goesOn =>
    exact counted.of_eq rfl (served_same present _ (by simp [served, goesOn]) _) rfl
  | @leave connection move channel later events present served works ends =>
    have fewer := served_leave present served ends events
    have counter := counted.toNat_sub (by omega)
    have before := counted.counter
    have bounded := counted.bounded
    refine ⟨?_, ?_, fun other current looking => ?_⟩
    · change (service.counter - 1).toNat = (service.update connection later events).served
      omega
    · change (service.update connection later events).served ≤ _
      omega
    · obtain ⟨less, most⟩ := counted.looked other current looking
      change (service.update connection later events).served ≤ _ ∧ _
      omega

/-- At the start nothing was done for anyone. -/
theorem spared_start (config : ServerConfig) : Spared config {} :=
  ⟨by simp, by simp, fun _ _ => rfl⟩

/-- A change of one connection spares the others. -/
theorem Spared.update (spared : service.Spared config) {connection : Nat} {channel : Channel}
    (present : service.channels[connection]? = some channel) (later : Channel)
    (events : List Event)
    (waiting : later.phase = .waiting → later.heard = [] ∧ later.sent = [] ∧ later.logged = 0 ∧
      service.eventsOf connection ++ events = [])
    (rejected : later.phase = .rejected → later.sent = [] ∧
      service.eventsOf connection ++ events =
        [.connectionRejected config.maxConnections config.maxConnections]) :
    (service.update connection later events).Spared config := by
  refine ⟨fun other found member => ?_, fun other found member => ?_, fun other absent => ?_⟩
  · rw [getElem?_update present] at member
    rw [eventsOf_update]
    split at member
    · rename_i here
      subst here
      cases member
      rw [if_pos rfl]
      exact waiting
    · rename_i elsewhere
      rw [if_neg elsewhere, List.append_nil]
      exact spared.waiting other found member
  · rw [getElem?_update present] at member
    rw [eventsOf_update]
    split at member
    · rename_i here
      subst here
      cases member
      rw [if_pos rfl]
      exact rejected
    · rename_i elsewhere
      rw [if_neg elsewhere, List.append_nil]
      exact spared.rejected other found member
  · rw [getElem?_update present] at absent
    rw [eventsOf_update]
    split at absent
    · contradiction
    · rename_i elsewhere
      rw [if_neg elsewhere, List.append_nil]
      exact spared.unopened other absent

/-- A connection with a task is neither undecided nor turned away, before or after a move. -/
theorem Spared.work (spared : service.Spared config) {connection : Nat} {move : TaskMove}
    {channel later : Channel} {events : List Event}
    (present : service.channels[connection]? = some channel) (served : channel.phase = .served)
    (works : channel.Works config handler move later events) :
    (service.update connection later events).Spared config := by
  obtain goesOn | finished | interrupted := works.phase_of_served served
  · exact spared.update present later events (by simp [goesOn]) (by simp [goesOn])
  · exact spared.update present later events (by simp [finished]) (by simp [finished])
  · exact spared.update present later events (by simp [interrupted]) (by simp [interrupted])

/-- Every step does nothing for those that are undecided or turned away. -/
theorem Spared.step (queued : service.Queued) (counted : service.Counted config)
    (spared : service.Spared config)
    (stepped : service.step config handler action = some next) : next.Spared config := by
  cases takes_of_step stepped with
  | connect listening =>
    refine ⟨fun other found member => ?_, fun other found member => ?_, fun other absent => ?_⟩
    · rw [List.getElem?_append] at member
      split at member
      · exact spared.waiting other found member
      · rename_i behind
        cases List.mem_singleton.1 (List.mem_of_getElem? member)
        have unopened := spared.unopened other (List.getElem?_eq_none_iff.2 (by omega))
        exact fun _ => ⟨rfl, rfl, rfl, unopened⟩
    · rw [List.getElem?_append] at member
      split at member
      · exact spared.rejected other found member
      · cases List.mem_singleton.1 (List.mem_of_getElem? member)
        exact fun refused => absurd refused (by simp)
    · rw [List.getElem?_append] at absent
      split at absent
      · exact spared.unopened other absent
      · exact spared.unopened other (List.getElem?_eq_none_iff.2 (by omega))
  | @client connection move channel later present moved =>
    obtain ⟨phase, heard, sent, logged⟩ := Channel.move_eq_some moved
    refine spared.update present later [] ?_ ?_
    · rw [phase, heard, sent, logged, List.append_nil]
      exact spared.waiting connection channel present
    · rw [phase, sent, List.append_nil]
      exact spared.rejected connection channel present
  | accept idle waits => exact ⟨spared.waiting, spared.rejected, spared.unopened⟩
  | fail error idle =>
    refine ⟨fun other found member waiting => ?_, fun other found member rejected => ?_,
      fun other absent => ?_⟩
    · rw [eventsOf_fail]
      exact spared.waiting other found member waiting
    · rw [eventsOf_fail]
      exact spared.rejected other found member rejected
    · rw [eventsOf_fail]
      exact spared.unopened other absent
  | load accepted => exact ⟨spared.waiting, spared.rejected, spared.unopened⟩
  | @enter connection current channel looking present room =>
    have kept := spared.update present { channel with phase := .served } [] (by simp) (by simp)
    exact ⟨kept.waiting, kept.rejected, kept.unopened⟩
  | @reject connection current channel looking present crowded =>
    have full : current = config.maxConnections :=
      Nat.le_antisymm (counted.looked connection current looking).2 crowded
    have waiting := queued.waiting_of_held (by rw [looking]; rfl) present
    obtain ⟨_, sent, _, nothing⟩ := spared.waiting connection channel present waiting
    have kept := spared.update present { channel with phase := .rejected }
      [.connectionRejected current config.maxConnections] (by simp)
      fun _ => ⟨sent, by rw [nothing, full]; rfl⟩
    exact ⟨kept.waiting, kept.rejected, kept.unopened⟩
  | shutdown idle => exact ⟨spared.waiting, spared.rejected, spared.unopened⟩
  | work present served works goesOn => exact spared.work present served works
  | leave present served works ends =>
    have kept := spared.work present served works
    exact ⟨kept.waiting, kept.rejected, kept.unopened⟩

/-- Warnings about connections turned away come from the loop, which has seen the counter at the
limit, unless a handler logs such a warning by itself. -/
def Warned (config : ServerConfig) (handler : Handler) (service : Service) : Prop :=
  ∀ about current limit, (about, .connectionRejected current limit) ∈ service.log →
    current = config.maxConnections ∧ limit = config.maxConnections ∨
      ∃ source, .connectionRejected current limit ∈
        (Connection.run config handler source).warnings

/-- A task gives no such warning that its handler does not give. -/
theorem Warned.work (warned : service.Warned config handler) {connection : Nat} {move : TaskMove}
    {channel later : Channel} {events : List Event}
    (works : channel.Works config handler move later events) :
    (service.update connection later events).Warned config handler := by
  intro other current limit member
  simp only [Service.update, List.mem_append, List.mem_map, Prod.mk.injEq] at member
  obtain earlier | ⟨event, logged, rfl, rfl⟩ := member
  · exact warned other current limit earlier
  · obtain own | ⟨failure, failed⟩ := works.logs logged
    · exact .inr ⟨channel.arrived, own⟩
    · contradiction

/-- Every step gives such a warning only with the counter at the limit. -/
theorem Warned.step (counted : service.Counted config) (warned : service.Warned config handler)
    (stepped : service.step config handler action = some next) : next.Warned config handler := by
  cases takes_of_step stepped with
  | connect listening => exact warned
  | client present moved =>
    intro other current limit member
    simp only [Service.update, List.map_nil, List.append_nil] at member
    exact warned other current limit member
  | accept idle waits => exact warned
  | fail error idle =>
    intro about current limit member
    rw [List.mem_append, List.mem_singleton] at member
    rcases member with earlier | now
    · exact warned about current limit earlier
    · cases now
  | load accepted => exact warned
  | enter looking present room =>
    intro other current limit member
    simp only [Service.update, List.map_nil, List.append_nil] at member
    exact warned other current limit member
  | @reject connection seen channel looking present crowded =>
    intro other current limit member
    simp only [Service.update, List.map_cons, List.map_nil, List.mem_append, List.mem_singleton,
      Prod.mk.injEq, Event.connectionRejected.injEq] at member
    obtain earlier | ⟨_, rfl, rfl⟩ := member
    · exact warned other current limit earlier
    · exact .inl ⟨Nat.le_antisymm (counted.looked connection current looking).2 crowded, rfl⟩
  | shutdown idle => exact warned
  | work present served works goesOn => exact warned.work works
  | leave present served works ends => exact warned.work works

/-- All that a server keeps about admission. -/
structure Admits (config : ServerConfig) (handler : Handler) (service : Service) : Prop where
  queued : service.Queued
  counted : service.Counted config
  spared : service.Spared config
  warned : service.Warned config handler

/-- Admission is in order at the start. -/
theorem admits_start (config : ServerConfig) (handler : Handler) : Admits config handler {} :=
  ⟨queued_start, counted_start config, spared_start config,
    fun _ _ _ member => absurd member List.not_mem_nil⟩

/-- Every step keeps admission in order. -/
theorem Admits.step (word : config.maxConnections < Admission.counterBound)
    (admits : service.Admits config handler)
    (stepped : service.step config handler action = some next) : next.Admits config handler := by
  obtain ⟨queued, counted, spared, warned⟩ := admits
  exact ⟨queued.step stepped, counted.step word queued stepped,
    spared.step queued counted stepped, warned.step counted stepped⟩

/-- What has become of a connection that was opened. -/
def phase? (service : Service) (connection : Nat) : Option Phase :=
  service.channels[connection]?.map (·.phase)

/-- What a step does to the counter. -/
inductive Counts (config : ServerConfig) (service next : Service) : Action → Prop
  /-- A connection is counted in, the loop having seen the counter below the limit. -/
  | admits {connection current : Nat} (looked : service.gate = .counted connection current)
      (room : current < config.maxConnections) (becomes : next.phase? connection = some .served)
      (counter : next.counter.toNat = service.counter.toNat + 1) :
      Counts config service next .decide
  /-- A connection is turned away, the loop having seen the counter at the limit. -/
  | rejects {connection : Nat}
      (looked : service.gate = .counted connection config.maxConnections)
      (becomes : next.phase? connection = some .rejected)
      (counter : next.counter = service.counter) : Counts config service next .decide
  /-- A connection is counted out, once, at the end of its task. -/
  | ends {connection : Nat} {move : TaskMove} (was : service.phase? connection = some .served)
      (becomes : next.phase? connection = some .finished ∨
        next.phase? connection = some .interrupted)
      (counter : next.counter.toNat + 1 = service.counter.toNat) :
      Counts config service next (.task connection move)
  /-- Nothing is counted. -/
  | keeps {action : Action} (undecided : action ≠ .decide) (served : next.served = service.served)
      (counter : next.counter = service.counter) : Counts config service next action

/-- What has become of a connection after it has changed. -/
theorem phase?_update {connection : Nat} {channel : Channel}
    (present : service.channels[connection]? = some channel) (later : Channel)
    (events : List Event) :
    (service.update connection later events).phase? connection = some later.phase := by
  rw [phase?, getElem?_update present, if_pos rfl]
  rfl

/-- Every step counts at most one connection, in or out. -/
theorem Admits.counts (word : config.maxConnections < Admission.counterBound)
    (admits : service.Admits config handler)
    (stepped : service.step config handler action = some next) :
    service.Counts config next action := by
  obtain ⟨queued, counted, _, _⟩ := admits
  cases takes_of_step stepped with
  | connect listening => exact .keeps (by simp) (by simp [served]) rfl
  | client present moved =>
    have same := served_same present _ (by rw [(Channel.move_eq_some moved).1]) []
    exact .keeps (by simp) same rfl
  | accept idle waits => exact .keeps (by simp) rfl rfl
  | fail error idle => exact .keeps (by simp) rfl rfl
  | load accepted => exact .keeps (by simp) rfl rfl
  | @enter connection current channel looking present room =>
    have fewer := (counted.looked connection current looking).1
    exact .admits looking room (phase?_update present _ [])
      (counted.toNat_add word (by omega))
  | @reject connection current channel looking present crowded =>
    have full : current = config.maxConnections :=
      Nat.le_antisymm (counted.looked connection current looking).2 crowded
    rw [full] at looking
    have becomes := phase?_update present { channel with phase := .rejected }
      [.connectionRejected current config.maxConnections]
    exact .rejects looking becomes rfl
  | shutdown idle => exact .keeps (by simp) rfl rfl
  | work present served works goesOn =>
    exact .keeps (by simp) (served_same present _ (by simp [served, goesOn]) _) rfl
  | @leave connection move channel later events present served works ends =>
    have fewer := served_leave present served ends events
    refine .ends (by rw [phase?, present, ← served]; rfl) ?_ (counted.toNat_sub (by omega))
    have becomes := phase?_update present later events
    obtain goesOn | finished | interrupted := works.phase_of_served served
    · exact absurd goesOn ends
    · exact .inl (becomes.trans (by rw [finished]))
    · exact .inr (becomes.trans (by rw [interrupted]))

/-- In every state that a server can reach the counter is the number of connections that are
served and within the limit, connections turned away got nothing but a warning that names the
limit twice, and every step counts in or out exactly the connection that it admits or ends. -/
theorem admission_exact (word : config.maxConnections < Admission.counterBound)
    {actions : List Action} (reached : steps config handler {} actions = some service) :
    service.counter.toNat = service.served ∧ service.served ≤ config.maxConnections ∧
      (∀ connection channel, service.channels[connection]? = some channel →
        channel.phase = .rejected → channel.sent = [] ∧ service.eventsOf connection =
          [.connectionRejected config.maxConnections config.maxConnections]) ∧
      service.Warned config handler ∧
      ∀ action next, service.step config handler action = some next →
        service.Counts config next action := by
  have admits : service.Admits config handler :=
    invariant_of_steps _ (fun admits => admits.step word) (admits_start config handler) reached
  exact ⟨admits.counted.counter, admits.counted.bounded, admits.spared.rejected, admits.warned,
    fun action next stepped => admits.counts word stepped⟩

/-- A server with room for one connection. -/
def narrow : ServerConfig := { maxConnections := 1, protocol := .raw }

/-- Two clients come, of which the first is served until its time is over. -/
def crowd : List Action :=
  [.connect, .connect, .accept, .load, .decide, .accept, .load, .decide,
    .task 0 (.interrupt .deadline)]

/-- The second of two clients is turned away where one has room, and the first counted out. -/
theorem admission_crowd :
    narrow.maxConnections < Admission.counterBound ∧
      ∃ service, steps narrow .rawEcho {} crowd = some service ∧
        service.phase? 0 = some .interrupted ∧ service.phase? 1 = some .rejected ∧
        service.counter.toNat = service.served ∧
        service.eventsOf 1 = [.connectionRejected 1 1] := by
  have word : narrow.maxConnections < Admission.counterBound := by decide
  refine ⟨word, _, rfl, rfl, rfl, ?_, ?_⟩
  · exact (admission_exact word (show steps narrow .rawEcho {} crowd = some _ from rfl)).1
  · obtain ⟨_, _, rejected, _⟩ :=
      admission_exact word (show steps narrow .rawEcho {} crowd = some _ from rfl)
    exact (rejected 1 _ rfl rfl).2

end TunnelBench.Service
