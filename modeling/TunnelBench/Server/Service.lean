import TunnelBench.Server.Admission
import TunnelBench.Server.Connection

/-!
# A running server

The accept loop takes the connections that clients have opened, in the order in which
they came. It looks at the counter, and either rejects the connection or counts it in and
starts a task that serves it. Where the system gives it no connection but an error, it logs
the error and goes on. The tasks go on by themselves: each receives what its client sends,
answers, logs, and counts itself out at its end. Clients, loop and tasks take their steps in
any order.
-/
namespace TunnelBench

/-- Where the accept loop stands. -/
inductive Gate where
  /-- Waiting for a connection. -/
  | idle
  /-- With a new connection. -/
  | accepted (connection : Nat)
  /-- With a new connection and the value of the counter when it was looked at. -/
  | counted (connection current : Nat)
  /-- Left for good. -/
  | closed
  deriving DecidableEq, Repr

/-- What has become of a connection. -/
inductive Phase where
  /-- The loop has not decided about it. -/
  | waiting
  /-- Turned away. -/
  | rejected
  /-- Counted in. -/
  | served
  /-- Served to its end and counted out. -/
  | finished
  /-- Given up on the way and counted out. -/
  | interrupted
  deriving DecidableEq, Repr

/-- Why a task is given up. -/
inductive Interruption where
  /-- It does not meet its deadline. -/
  | deadline
  /-- Its stream fails. -/
  | fault (fault : Fault)
  deriving DecidableEq, Repr

/-- What a client does on its connection. -/
inductive ClientMove where
  | send (bytes : Bytes)
  /-- Ends the sending. -/
  | close
  deriving DecidableEq, Repr

/-- What a task does with its connection. -/
inductive TaskMove where
  /-- Receives a number of bytes at most. -/
  | receive (count : Nat)
  /-- Sends a number of bytes at most. -/
  | answer (count : Nat)
  /-- Logs what there is to log before the end. -/
  | report
  /-- Ends, having nothing left to do. -/
  | finish
  /-- Ends before that. -/
  | interrupt (cause : Interruption)
  deriving DecidableEq, Repr

/-- A connection, with its client and its task. -/
structure Channel where
  phase : Phase := .waiting
  /-- The pieces that the server has received. -/
  heard : Source := []
  /-- What the client has sent beyond them. -/
  pending : Bytes := []
  /-- Whether the client has ended its sending. -/
  ended : Bool := false
  /-- What the server has sent. -/
  sent : Bytes := []
  /-- The number of events that the task has logged. -/
  logged : Nat := 0
  deriving DecidableEq, Repr

namespace Channel

/-- All bytes that the client has sent. -/
def stream (channel : Channel) : Bytes := channel.heard.content ++ channel.pending

/-- Whether the client is connected for all that the server has done. -/
def isOpen (channel : Channel) : Bool := channel.phase = .waiting || channel.phase = .served

/-- Whether the server has met the end of the stream. -/
def isOver (channel : Channel) : Bool := channel.ended && channel.pending.isEmpty

/-- The stream as the server has met it. -/
def arrived (channel : Channel) : Source :=
  if channel.isOver then channel.heard else Connection.unended channel.heard

/-- What the server does for the client, going by what it has received. -/
def outlook (config : ServerConfig) (handler : Handler) (channel : Channel) :
    Connection.Served := Connection.run config handler channel.arrived

/-- The failure of a task that is given up. -/
def failureOf (config : ServerConfig) (channel : Channel) : Interruption → Failure
  | .deadline => .timeout (Connection.deadline config channel.arrived)
  | .fault fault => .io (.stream fault)

/-- The connection after a move of its client, if the move can be made. -/
def move (channel : Channel) : ClientMove → Option Channel
  | .send bytes =>
    if channel.ended then none else some { channel with pending := channel.pending ++ bytes }
  | .close => some { channel with ended := true }

/-- The connection after a move of its task and what the task logs, if the move can be made. -/
def work (config : ServerConfig) (handler : Handler) (channel : Channel) (move : TaskMove) :
    Option (Channel × List Event) :=
  let outlook := channel.outlook config handler
  if channel.phase ≠ .served then none
  else match move with
    | .receive count =>
      match channel.pending.take count with
      | [] => none
      | byte :: bytes =>
        some ({ channel with
          heard := channel.heard ++ [.data (byte :: bytes)]
          pending := channel.pending.drop count }, [])
    | .answer count =>
      some ({ channel with sent := outlook.sent.take (channel.sent.length + count) }, [])
    | .report =>
      some ({ channel with logged := outlook.warnings.length },
        outlook.warnings.drop channel.logged)
    | .finish =>
      if outlook.timedOut || channel.sent ≠ outlook.sent ||
          channel.logged ≠ outlook.warnings.length then none
      else some ({ channel with phase := .finished }, Connection.failureEvent outlook.outcome)
    | .interrupt cause =>
      some ({ channel with phase := .interrupted },
        [.connectionFailed (channel.failureOf config cause)])

end Channel

/-- The accept loop, the connections and what they share. -/
structure Service where
  /-- The number of connections served, as the server counts it. -/
  counter : UInt64 := 0
  gate : Gate := .idle
  /-- The number of connections that the loop has taken. -/
  taken : Nat := 0
  /-- The connections in the order in which they were opened. -/
  channels : List Channel := []
  /-- All events in order, each with the connection that it is about, if it is about one. -/
  log : List (Option Nat × Event) := []
  deriving DecidableEq, Repr

namespace Service

/-- A step of a client, of the loop or of a task. -/
inductive Action where
  /-- A client opens a connection. -/
  | connect
  /-- The client of a connection does something. -/
  | client (connection : Nat) (move : ClientMove)
  /-- The loop takes the oldest connection that it has not taken. -/
  | accept
  /-- The loop tries to take a connection, and the system fails. -/
  | fail (error : IoError)
  /-- The loop looks at the counter. -/
  | load
  /-- The loop rejects the connection, or counts it in and starts its task. -/
  | decide
  /-- The loop ends. -/
  | shutdown
  /-- The task of a connection does something. -/
  | task (connection : Nat) (move : TaskMove)
  deriving DecidableEq, Repr

/-- The events about a connection. -/
def eventsOf (service : Service) (connection : Nat) : List Event :=
  (service.log.filter (·.1 = some connection)).map (·.2)

/-- The number of connections that are served. -/
def served (service : Service) : Nat := service.channels.countP (·.phase = .served)

/-- The number of connections that are open. -/
def opened (service : Service) : Nat := service.channels.countP (·.isOpen)

/-- A connection in another state, with some events about it. -/
def update (service : Service) (connection : Nat) (channel : Channel) (events : List Event) :
    Service :=
  { service with
    channels := service.channels.set connection channel
    log := service.log ++ events.map fun event => (some connection, event) }

/-- The loop decides about a connection, having seen the counter at some value. -/
def resolve (config : ServerConfig) (service : Service) (connection current : Nat)
    (channel : Channel) : Service :=
  if Admission.admits config.maxConnections current then
    { service.update connection { channel with phase := .served } [] with
      gate := .idle
      counter := service.counter + 1 }
  else
    { service.update connection { channel with phase := .rejected }
        [.connectionRejected current config.maxConnections] with
      gate := .idle }

/-- The state after a step, if the step can be taken. -/
def step (config : ServerConfig) (handler : Handler) (service : Service) :
    Action → Option Service
  | .connect =>
    if service.gate = .closed then none
    else some { service with channels := service.channels ++ [{}] }
  | .client connection move => do
    let channel ← service.channels[connection]?
    let later ← channel.move move
    some (service.update connection later [])
  | .accept =>
    if service.gate = .idle ∧ service.taken < service.channels.length then
      some { service with gate := .accepted service.taken, taken := service.taken + 1 }
    else none
  | .fail error =>
    if service.gate = .idle then
      some { service with log := service.log ++ [(none, .acceptFailed error)] }
    else none
  | .load =>
    match service.gate with
    | .accepted connection =>
      some { service with gate := .counted connection service.counter.toNat }
    | _ => none
  | .decide =>
    match service.gate with
    | .counted connection current => do
      let channel ← service.channels[connection]?
      some (service.resolve config connection current channel)
    | _ => none
  | .shutdown => if service.gate = .idle then some { service with gate := .closed } else none
  | .task connection move => do
    let channel ← service.channels[connection]?
    let (later, events) ← channel.work config handler move
    let updated := service.update connection later events
    some (if later.phase = .served then updated
      else { updated with counter := updated.counter - 1 })

/-- The state after some steps, if all of them can be taken. -/
def steps (config : ServerConfig) (handler : Handler) (service : Service)
    (actions : List Action) : Option Service :=
  actions.foldlM (step config handler) service

end Service
end TunnelBench
