import TunnelBench.Handler.Event
import TunnelBench.Stream.Reader
import TunnelBench.Stream.Sink

/-!
# Transfers

A handler works on an exchange: it reads the source of a request, writes to the sink
for the answer and logs events. A transfer is such work; when it fails, what it did
before stays done.
-/
namespace TunnelBench

/-- The two streams of a request and the log. -/
structure Exchange where
  source : Source
  sink : Sink := {}
  /-- The events logged so far, in order. -/
  events : List Event := []
  deriving DecidableEq, Repr

/-- Work on an exchange. -/
abbrev Transfer (α : Type) : Type := ExceptT Failure (StateM Exchange) α

namespace Transfer

/-- The size of the blocks that are copied. -/
def blockSize : Nat := 8192

/-- Does some work. -/
def run {α : Type} (transfer : Transfer α) (exchange : Exchange) : Except Failure α × Exchange :=
  transfer exchange

/-- Receives a message; what was received beyond it is dropped. -/
def receive {α : Type} (reader : Source → Reading α) : Transfer α := fun exchange =>
  let reading := reader exchange.source
  (reading.outcome, { exchange with source := reading.source })

/-- Sends a whole message. -/
def send (bytes : Bytes) : Transfer Unit := fun exchange =>
  let (outcome, sink) := exchange.sink.writeAll .nothingWritten bytes
  (outcome, { exchange with sink })

/-- Hands on what was sent. -/
def flush : Transfer Unit := fun exchange =>
  let (outcome, sink) := exchange.sink.flush
  (outcome, { exchange with sink })

/-- Logs an event. -/
def log (event : Event) : Transfer Unit := fun exchange =>
  (.ok (), { exchange with events := exchange.events ++ [event] })

/-- Copies blocks from a source to a sink until the source ends; an interrupted read is made
again. -/
def copyBlocks (source : Source) (sink : Sink) : Except Failure Unit × Source × Sink :=
  match _ : source.read blockSize with
  | (.error (.interrupted _), rest) => copyBlocks rest sink
  | (.error fault, rest) => (.error (.io (.stream fault)), rest, sink)
  | (.ok [], rest) => (.ok (), rest, sink)
  | (.ok (byte :: bytes), rest) =>
    match sink.writeAll .nothingCopied (byte :: bytes) with
    | (.ok (), sink) => copyBlocks rest sink
    | (.error failure, sink) => (.error failure, rest, sink)
termination_by source.weight
decreasing_by
  · exact Source.weight_read_error_lt ‹_›
  · exact (Source.weight_read_ok_lt ‹_› (by simp)).2

/-- Sends everything that is received. -/
def copy : Transfer Unit := fun exchange =>
  let (outcome, source, sink) := copyBlocks exchange.source exchange.sink
  (outcome, { exchange with source, sink })

end Transfer
end TunnelBench
