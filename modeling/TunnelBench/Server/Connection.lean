import TunnelBench.Handler.Basic
import TunnelBench.Server.Config

/-!
# Serving one connection

The first bytes of a connection say what is asked for, if the server speaks a protocol
with requests for paths. They are put back before the handler runs, so that it sees
the whole stream. A client that stays silent is given up after a while.
-/
namespace TunnelBench

/-- A source with bytes put back in front of it. -/
def Source.replay (bytes : Bytes) (source : Source) : Source :=
  if bytes.isEmpty then source else .data bytes :: source

/-- The failure that a silent stream leads to when a deadline passes. -/
def Failure.after (deadline : Deadline) : Failure → Failure
  | .io (.stream .silent) => .timeout deadline
  | failure => failure

namespace Connection

/-- The path in a request target: what stands before a query or a fragment. -/
def pathOf (target : String) : String :=
  String.ofList (target.toList.takeWhile fun char => char ≠ '?' && char ≠ '#')

/-- Finds out what is asked for, leaving the whole stream to be read. -/
def introduce (protocol : Protocol) (source : Source) : Except Failure Descriptor × Source :=
  match protocol with
  | .http =>
    let reading := Request.readTarget source
    match reading.outcome with
    | .ok target => (.ok (.http (pathOf target)), Source.replay reading.waiting reading.source)
    | .error failure => (.error (failure.after .head), reading.source)
  | other => (.ok ⟨other, ""⟩, source)

/-- Serves a connection with a handler. -/
def serve (config : ServerConfig) (handler : Handler) : Transfer Unit := fun exchange =>
  match introduce config.protocol exchange.source with
  | (.error failure, rest) => (.error failure, { exchange with source := rest })
  | (.ok descriptor, source) =>
    let (outcome, exchange) := (handler.proxy descriptor).run { exchange with source }
    (outcome.mapError (Failure.after (.handler descriptor.text)), exchange)

/-- What a client and the log get from a connection. -/
structure Served where
  /-- All bytes sent to the client. -/
  sent : Bytes
  /-- What the handler logged. -/
  warnings : List Event
  /-- How serving ended. -/
  outcome : Except Failure Unit

/-- The event that a failed connection adds. -/
def failureEvent : Except Failure Unit → List Event
  | .ok () => []
  | .error failure => [.connectionFailed failure]

/-- Whether a connection ended because nothing came in time. -/
def isTimeout : Except Failure Unit → Bool
  | .error (.timeout .head) => true
  | .error (.timeout (.handler _)) => true
  | _ => false

/-- All events logged. -/
def Served.events (served : Served) : List Event := served.warnings ++ failureEvent served.outcome

/-- Whether the server gave up a silent client. -/
def Served.timedOut (served : Served) : Bool := isTimeout served.outcome

/-- Serves a connection on which a client sends some pieces. -/
def run (config : ServerConfig) (handler : Handler) (source : Source) : Served :=
  let (outcome, exchange) := (serve config handler).run { source }
  { sent := exchange.sink.written.toList, warnings := exchange.events, outcome }

/-- The stream of a client that has sent some pieces and stays silent. -/
def unended (pieces : Source) : Source := pieces ++ [.fault .silent]

/-- The deadline that a connection has to meet next, going by what has come so far. -/
def deadline (config : ServerConfig) (source : Source) : Deadline :=
  match (introduce config.protocol source).1 with
  | .ok descriptor => .handler descriptor.text
  | .error _ => .head

end Connection
end TunnelBench
