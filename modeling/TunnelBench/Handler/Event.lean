import TunnelBench.Failure
import TunnelBench.Routing.Protocol

/-!
# Logged events

The events that are worth a warning or an error. What goes well is not logged here.
-/
namespace TunnelBench

/-- How serious an event is. -/
inductive Severity where
  | warning
  | error
  deriving DecidableEq, Repr

/-- The name of a severity in a log. -/
def Severity.label : Severity → String
  | .warning => "WARN"
  | .error => "ERROR"

/-- Something that a log should show. -/
inductive Event where
  /-- No resource has the path that was asked for. -/
  | resourceMissing (descriptor : Descriptor)
  /-- A connection came while the server had as many as it may have. -/
  | connectionRejected (current limit : Nat)
  /-- A connection ended with a failure. -/
  | connectionFailed (failure : Failure)
  /-- No connection could be taken. -/
  | acceptFailed (error : IoError)
  deriving DecidableEq, Repr

namespace Event

/-- How serious the event is. -/
def severity : Event → Severity
  | .resourceMissing _ => .warning
  | .connectionRejected _ _ => .warning
  | .connectionFailed _ => .error
  | .acceptFailed _ => .error

/-- The fixed text of the event. -/
def message : Event → String
  | .resourceMissing _ => "Resource not found"
  | .connectionRejected _ _ => "Connection rejected: limit reached"
  | .connectionFailed _ => "Error handling connection"
  | .acceptFailed _ => "Failed to accept connection"

/-- The named values of the event. -/
def fields : Event → List (String × String)
  | .resourceMissing descriptor => [("descriptor", descriptor.text)]
  | .connectionRejected current limit =>
    [("current", toString current), ("limit", toString limit)]
  | .connectionFailed failure => [("error", failure.message)]
  | .acceptFailed error => [("error", error.message)]

end Event
end TunnelBench
