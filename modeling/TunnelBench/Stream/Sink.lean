import TunnelBench.Failure

/-!
# Byte sinks

A sink takes what is written to it, up to a limit on each write and a limit in all.
Past the second limit it fails, or takes nothing. Writing a whole message goes on
until all of it is taken, and counts a write that takes nothing as an error.
-/
namespace TunnelBench

/-- A place that bytes are written to. -/
structure Sink where
  /-- All bytes taken so far. -/
  written : Array UInt8 := #[]
  /-- The most bytes taken in all. -/
  limit : Option Nat := none
  /-- How writes fail past the limit; without it they take nothing. -/
  limitFault : Option Fault := none
  /-- The most bytes taken by one write. -/
  perWrite : Option Nat := none
  /-- How flushes fail. -/
  flushFault : Option Fault := none
  /-- Whether everything taken was flushed by a flush that was made. -/
  flushed : Bool := false
  deriving DecidableEq, Repr

namespace Sink

/-- What the limit in all leaves of some bytes. -/
def withinLimit (sink : Sink) (bytes : Bytes) : Bytes :=
  match sink.limit with
  | none => bytes
  | some limit => bytes.take (limit - sink.written.size)

/-- What the limit on one write leaves of some bytes. -/
def withinWrite (sink : Sink) (bytes : Bytes) : Bytes :=
  match sink.perWrite with
  | none => bytes
  | some limit => bytes.take limit

/-- One write of some bytes; the answer holds the bytes that were taken. -/
def write (bytes : Bytes) (sink : Sink) : Except Fault Bytes × Sink :=
  match sink.withinLimit bytes, sink.limitFault with
  | [], some fault => (.error fault, sink)
  | allowed, _ =>
    match sink.withinWrite allowed with
    | [] => (.ok [], sink)
    | byte :: taken =>
      (.ok (byte :: taken),
        { sink with written := sink.written ++ (byte :: taken), flushed := false })

/-- Writes a whole message, with the error for a write that takes nothing. -/
def writeAll (nothing : IoError) (bytes : Bytes) (sink : Sink) : Except Failure Unit × Sink :=
  match bytes with
  | [] => (.ok (), sink)
  | first :: later =>
    match sink.write (first :: later) with
    | (.error fault, sink) => (.error (.io (.stream fault)), sink)
    | (.ok [], sink) => (.error (.io nothing), sink)
    | (.ok (_ :: taken), sink) => writeAll nothing (later.drop taken.length) sink
termination_by bytes.length
decreasing_by
  simp only [List.length_drop, List.length_cons]
  omega

/-- Hands on everything taken so far. -/
def flush (sink : Sink) : Except Failure Unit × Sink :=
  match sink.flushFault with
  | some fault => (.error (.io (.stream fault)), sink)
  | none => (.ok (), { sink with flushed := true })

end Sink
end TunnelBench
