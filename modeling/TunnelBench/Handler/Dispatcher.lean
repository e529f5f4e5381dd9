import TunnelBench.Handler.Basic
import TunnelBench.Response.Description

/-!
# Dispatchers

A dispatcher has a fallback and handlers registered for protocols. Registering a
protocol again replaces its handler. Copies of a dispatcher are independent.
-/
namespace TunnelBench

/-- Handlers by protocol, and one for all other protocols. -/
structure Dispatcher where
  /-- Each protocol at most once, in the order in which they were first registered. -/
  routes : List (Protocol × Handler) := []
  fallback : Handler

namespace Dispatcher

/-- A dispatcher with nothing registered. -/
def new (fallback : Handler) : Dispatcher := { fallback }

/-- The routes with a handler for a protocol, in place of an earlier one. -/
def setRoute (protocol : Protocol) (handler : Handler) :
    List (Protocol × Handler) → List (Protocol × Handler)
  | [] => [(protocol, handler)]
  | (present, old) :: rest =>
    if present = protocol then (present, handler) :: rest
    else (present, old) :: setRoute protocol handler rest

/-- The dispatcher with a handler for a protocol, in place of an earlier one. -/
def register (protocol : Protocol) (handler : Handler) (dispatcher : Dispatcher) : Dispatcher :=
  { dispatcher with routes := setRoute protocol handler dispatcher.routes }

/-- Echoes requests for paths by their bodies and all else byte for byte. -/
def echo : Dispatcher := (new .rawEcho).register .http .httpEcho

/-- Whether a protocol has a handler of its own. -/
def isRegistered (dispatcher : Dispatcher) (protocol : Protocol) : Bool :=
  dispatcher.routes.any (·.1 == protocol)

/-- The handler that answers requests of a protocol. -/
def handlerFor (dispatcher : Dispatcher) (protocol : Protocol) : Handler :=
  match dispatcher.routes.find? (·.1 == protocol) with
  | some route => route.2
  | none => dispatcher.fallback

/-- The dispatcher as a handler. -/
def toHandler (dispatcher : Dispatcher) : Handler :=
  .dispatch dispatcher.routes dispatcher.fallback

/-- A dispatcher shown by its registered protocols. -/
def describe (dispatcher : Dispatcher) : String :=
  "Dispatcher \x7b protocols: " ++
    describeList Protocol.describe (dispatcher.routes.map (·.1)) ++ ", .. \x7d"

end Dispatcher
end TunnelBench
