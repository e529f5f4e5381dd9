import TunnelBench.Proofs.Server.Outlook
import TunnelBench.Proofs.Server.Steps

/-!
# What a connection gets on the way

A task sends and logs bit by bit, while its client goes on sending. What it has sent and
logged is at any time the start of what the server does for the bytes received, and when
it ends by itself, it is all of that. Nothing that the client sends later changes it.
-/
namespace TunnelBench.Channel

open Connection (unended)

variable {config : ServerConfig} {handler : Handler} {channel later : Channel}
  {events : List Event}

/-- The whole stream of the client, in the pieces in which the server has received it; what it has
not received comes as one piece. -/
def arrivals (channel : Channel) : Source :=
  channel.heard ++ if channel.pending = [] then [] else [.data channel.pending]

/-- The streams that the client's stream can still turn out to be. -/
def CanBe (channel : Channel) (source : Source) : Prop :=
  ∃ after, source = channel.arrivals ++ after ∧ (channel.ended = true → after = [])

/-- What a client has sent comes as pieces with bytes. -/
theorem full_arrivals (full : channel.heard.Full) : channel.arrivals.Full := by
  unfold arrivals
  split
  · rwa [List.append_nil]
  · rename_i given
    rw [← ne_eq] at given
    intro piece member
    obtain earlier | last := List.mem_append.1 member
    · exact full piece earlier
    · exact ⟨channel.pending, List.mem_singleton.1 last, given⟩

/-- What a client has sent is its stream. -/
theorem delivers_arrivals (full : channel.heard.Full) :
    channel.arrivals.Delivers channel.stream := by
  refine ⟨full_arrivals full, ?_⟩
  unfold arrivals stream
  split
  · rename_i nothing
    rw [nothing, List.append_nil, List.append_nil]
  · simp [Source.content, Piece.content]

/-- The server has met all of a stream that is over. -/
theorem arrived_of_isOver (past : channel.isOver = true) :
    channel.arrived = channel.heard ∧ channel.arrivals = channel.heard ∧ channel.ended = true := by
  simp only [isOver, Bool.and_eq_true, List.isEmpty_iff] at past
  refine ⟨?_, ?_, past.1⟩
  · simp [arrived, isOver, past]
  · simp [arrivals, past.2]

/-- The server waits for more of a stream that is not over. -/
theorem arrived_of_not_isOver (unfinished : channel.isOver = false) :
    channel.arrived = unended channel.heard := by
  simp [arrived, unfinished]

/-- The server has met the start of everything that the stream can turn out to be. -/
theorem CanBe.begins {source : Source} (config : ServerConfig) (standard : handler.Standard)
    (full : channel.heard.Full) (possible : channel.CanBe source) :
    (channel.outlook config handler).Begins (Connection.run config handler source) := by
  obtain ⟨after, rfl, last⟩ := possible
  cases past : channel.isOver with
  | true =>
    obtain ⟨arrived, whole, ended⟩ := arrived_of_isOver past
    rw [outlook, arrived, whole, last ended, List.append_nil]
    exact .refl _
  | false =>
    rw [outlook, arrived_of_not_isOver past, arrivals, List.append_assoc]
    exact Connection.run_unended_begins standard config full _

/-- Where the server waits for nothing, it does what it does on everything that the stream can turn
out to be. -/
theorem CanBe.run_eq {source : Source} (standard : handler.Standard) (full : channel.heard.Full)
    (spoken : (channel.outlook config handler).timedOut = false)
    (possible : channel.CanBe source) :
    Connection.run config handler source = channel.outlook config handler := by
  obtain ⟨after, rfl, last⟩ := possible
  cases past : channel.isOver with
  | true =>
    obtain ⟨arrived, whole, ended⟩ := arrived_of_isOver past
    rw [outlook, arrived, whole, last ended, List.append_nil]
  | false =>
    rw [outlook, arrived_of_not_isOver past] at spoken ⊢
    rw [arrivals, List.append_assoc]
    exact Connection.run_append_of_spoken standard config full spoken _

/-- A connection whose stream has gone on, or is as it was. -/
structure Extends (channel later : Channel) : Prop where
  full : later.heard.Full
  /-- The server has met the same, or more of a stream that was not over. -/
  arrived : later.arrived = channel.arrived ∨
    channel.isOver = false ∧ ∃ after, later.arrived = channel.heard ++ after

/-- More of the stream leaves what was done for the start of it. -/
theorem Extends.begins (config : ServerConfig) (standard : handler.Standard)
    (full : channel.heard.Full) (longer : channel.Extends later) :
    (channel.outlook config handler).Begins (later.outlook config handler) := by
  obtain same | ⟨past, after, more⟩ := longer.arrived
  · rw [outlook, outlook, same]
    exact .refl _
  · rw [outlook, outlook, more, arrived_of_not_isOver past]
    exact Connection.run_unended_begins standard config full after

/-- More of the stream changes nothing where the server waits for nothing. -/
theorem Extends.outlook_eq (standard : handler.Standard) (full : channel.heard.Full)
    (longer : channel.Extends later)
    (spoken : (channel.outlook config handler).timedOut = false) :
    later.outlook config handler = channel.outlook config handler := by
  obtain same | ⟨past, after, more⟩ := longer.arrived
  · rw [outlook, outlook, same]
  · rw [outlook, arrived_of_not_isOver past] at spoken
    rw [outlook, outlook, more, arrived_of_not_isOver past]
    exact Connection.run_append_of_spoken standard config full spoken after

/-- A client goes on with its stream. -/
theorem extends_of_move {move : ClientMove} (full : channel.heard.Full)
    (moved : channel.move move = some later) : channel.Extends later := by
  cases move with
  | send bytes =>
    simp only [Channel.move] at moved
    split at moved
    · contradiction
    · rename_i unfinished
      cases moved
      refine ⟨full, .inl ?_⟩
      simp [arrived, isOver, unfinished]
  | close =>
    cases moved
    refine ⟨full, ?_⟩
    cases past : channel.isOver with
    | true =>
      obtain ⟨_, _, ended⟩ := arrived_of_isOver past
      refine .inl ?_
      simp [arrived, isOver, ended]
    | false =>
      refine .inr ⟨rfl, ?_⟩
      unfold arrived
      split
      · exact ⟨[], (List.append_nil _).symm⟩
      · exact ⟨[.fault .silent], rfl⟩

/-- What a task has sent and logged goes with what the server does for the bytes received. -/
structure Sound (config : ServerConfig) (handler : Handler) (channel : Channel)
    (events : List Event) : Prop where
  full : channel.heard.Full
  served : channel.phase = .served → channel.sent <+: (channel.outlook config handler).sent ∧
    events <+: (channel.outlook config handler).warnings ∧ events.length = channel.logged
  interrupted : channel.phase = .interrupted →
    channel.sent <+: (channel.outlook config handler).sent ∧ ∃ earlier failure,
      events = earlier ++ [.connectionFailed failure] ∧
        earlier <+: (channel.outlook config handler).warnings
  finished : channel.phase = .finished → (channel.outlook config handler).timedOut = false ∧
    channel.sent = (channel.outlook config handler).sent ∧
      events = (channel.outlook config handler).events

/-- A connection without a task is sound. -/
theorem sound_of_idle (full : channel.heard.Full)
    (idle : channel.phase = .waiting ∨ channel.phase = .rejected) :
    channel.Sound config handler events := by
  obtain waiting | rejected := idle
  · exact ⟨full, by simp [waiting], by simp [waiting], by simp [waiting]⟩
  · exact ⟨full, by simp [rejected], by simp [rejected], by simp [rejected]⟩

/-- A connection stays sound while its stream goes on. -/
theorem Sound.extends (standard : handler.Standard) (sound : channel.Sound config handler events)
    (longer : channel.Extends later) (phase : later.phase = channel.phase)
    (sent : later.sent = channel.sent) (logged : later.logged = channel.logged) :
    later.Sound config handler events := by
  have begins := longer.begins config standard sound.full
  refine ⟨longer.full, fun serves => ?_, fun broken => ?_, fun done => ?_⟩
  · obtain ⟨sentBegins, logBegins, length⟩ := sound.served (phase.symm.trans serves)
    rw [sent, logged]
    exact ⟨sentBegins.trans begins.sent, logBegins.trans begins.warnings, length⟩
  · obtain ⟨sentBegins, earlier, failure, same, logBegins⟩ :=
      sound.interrupted (phase.symm.trans broken)
    rw [sent]
    exact ⟨sentBegins.trans begins.sent, earlier, failure, same, logBegins.trans begins.warnings⟩
  · obtain ⟨spoken, all, logged⟩ := sound.finished (phase.symm.trans done)
    rw [longer.outlook_eq standard sound.full spoken, sent]
    exact ⟨spoken, all, logged⟩

/-- A connection stays sound under the moves of its task. -/
theorem Sound.works (standard : handler.Standard) (sound : channel.Sound config handler events)
    (serves : channel.phase = .served) {move : TaskMove} {logs : List Event}
    (works : channel.Works config handler move later logs) :
    later.Sound config handler (events ++ logs) := by
  obtain ⟨sentBegins, logBegins, length⟩ := sound.served serves
  cases works with
  | @receive count piece rest given split =>
    rw [List.append_nil]
    refine sound.extends standard ⟨?_, .inr ⟨?_, ?_⟩⟩ rfl rfl rfl
    · intro other member
      obtain earlier | last := List.mem_append.1 member
      · exact sound.full other earlier
      · exact ⟨piece, List.mem_singleton.1 last, given⟩
    · simp [isOver, split, given]
    · unfold arrived
      split
      · exact ⟨[.data piece], rfl⟩
      · exact ⟨[.data piece, .fault .silent], by simp [unended]⟩
  | answer count =>
    rw [List.append_nil]
    refine ⟨sound.full, fun _ => ⟨List.take_prefix _ _, logBegins, length⟩, ?_, ?_⟩
    · simp [serves]
    · simp [serves]
  | report =>
    have whole : events ++ (channel.outlook config handler).warnings.drop channel.logged =
        (channel.outlook config handler).warnings := by
      rw [← length]
      exact List.prefix_iff_eq_append.1 logBegins
    rw [whole]
    refine ⟨sound.full, fun _ => ⟨sentBegins, List.prefix_rfl, rfl⟩, ?_, ?_⟩
    · simp [serves]
    · simp [serves]
  | finish spoken sent logged =>
    have whole := logBegins.eq_of_length (length.trans logged)
    refine ⟨sound.full, by simp, by simp, fun _ => ⟨spoken, sent, ?_⟩⟩
    rw [whole]
    rfl
  | interrupt cause =>
    exact ⟨sound.full, by simp, fun _ => ⟨sentBegins, events, _, rfl, logBegins⟩, by simp⟩

/-- What a connection gets is what its own stream gets alone. -/
structure Alone (config : ServerConfig) (handler : Handler) (channel : Channel)
    (events : List Event) : Prop where
  /-- Before the loop has decided nothing is sent or logged. -/
  waiting : channel.phase = .waiting → channel.sent = [] ∧ events = []
  /-- A connection turned away gets no byte and one warning. -/
  rejected : channel.phase = .rejected →
    channel.sent = [] ∧ ∃ current limit, events = [.connectionRejected current limit]
  /-- What is sent and logged is the start of what is sent and logged in the end. -/
  served : channel.phase = .served → ∀ source, channel.CanBe source →
    channel.sent <+: (Connection.run config handler source).sent ∧
      events <+: (Connection.run config handler source).warnings
  /-- A task given up leaves it at a start, and logs why. -/
  interrupted : channel.phase = .interrupted → ∃ earlier failure,
    events = earlier ++ [.connectionFailed failure] ∧ ∀ source, channel.CanBe source →
      channel.sent <+: (Connection.run config handler source).sent ∧
        earlier <+: (Connection.run config handler source).warnings
  /-- In the end everything is sent and logged, and nothing else. -/
  finished : channel.phase = .finished → ∀ source,
    channel.CanBe source ∨
      source.Delivers channel.stream ∧ RequestHead.DecidedInLimit channel.stream →
    channel.sent = (Connection.run config handler source).sent ∧
      events = (Connection.run config handler source).events
  /-- A connection fails at most once. -/
  single : (events.filter (·.severity = .error)).length ≤ 1

/-- Before its end a task logs no error. -/
theorem filter_error_of_begins (standard : handler.Standard)
    (begins : events <+: (channel.outlook config handler).warnings) :
    events.filter (·.severity = .error) = [] := by
  rw [List.filter_eq_nil_iff]
  intro event member
  have warning := Connection.run_warns standard config channel.arrived event
    (begins.sublist.mem member)
  simp [warning]

/-- A sound connection gets what its own stream gets alone. -/
theorem Sound.alone (standard : handler.Standard) (sound : channel.Sound config handler events)
    (waiting : channel.phase = .waiting → channel.sent = [] ∧ events = [])
    (rejected : channel.phase = .rejected →
      channel.sent = [] ∧ ∃ current limit, events = [.connectionRejected current limit]) :
    channel.Alone config handler events := by
  refine ⟨waiting, rejected, fun serves source possible => ?_, fun broken => ?_,
    fun done source possible => ?_, ?_⟩
  · obtain ⟨sentBegins, logBegins, _⟩ := sound.served serves
    have begins := possible.begins config standard sound.full
    exact ⟨sentBegins.trans begins.sent, logBegins.trans begins.warnings⟩
  · obtain ⟨sentBegins, earlier, failure, same, logBegins⟩ := sound.interrupted broken
    refine ⟨earlier, failure, same, fun source possible => ?_⟩
    have begins := possible.begins config standard sound.full
    exact ⟨sentBegins.trans begins.sent, logBegins.trans begins.warnings⟩
  · obtain ⟨spoken, sent, logged⟩ := sound.finished done
    have same : Connection.run config handler source = channel.outlook config handler := by
      obtain own | ⟨delivers, within⟩ := possible
      · exact own.run_eq standard sound.full spoken
      · have whole : channel.CanBe channel.arrivals :=
          ⟨[], (List.append_nil _).symm, fun _ => rfl⟩
        rw [← whole.run_eq standard sound.full spoken]
        exact Connection.run_eq_of_delivers standard config within delivers
          (delivers_arrivals sound.full)
    rw [same]
    exact ⟨sent, logged⟩
  · cases phase : channel.phase with
    | waiting =>
      rw [(waiting phase).2]
      exact Nat.zero_le _
    | rejected =>
      obtain ⟨_, current, limit, same⟩ := rejected phase
      rw [same]
      exact Nat.zero_le _
    | served =>
      rw [filter_error_of_begins standard (sound.served phase).2.1]
      exact Nat.zero_le _
    | interrupted =>
      obtain ⟨_, earlier, failure, same, begins⟩ := sound.interrupted phase
      rw [same, List.filter_append, filter_error_of_begins standard begins]
      exact Nat.le_refl _
    | finished =>
      obtain ⟨_, _, same⟩ := sound.finished phase
      rw [same, Connection.Served.events, List.filter_append,
        filter_error_of_begins standard List.prefix_rfl, List.nil_append]
      refine Nat.le_trans (List.length_filter_le _ _) ?_
      unfold Connection.failureEvent
      split
      · exact Nat.zero_le _
      · exact Nat.le_refl _

end TunnelBench.Channel
