import TunnelBench.Handler.Transfer
import TunnelBench.Library.Basic
import TunnelBench.Request.Reader
import TunnelBench.Response.Rendering

/-!
# Handlers

A handler answers one request. Two handlers echo, the bytes of the stream or the body
of the request in it; one serves a library; and a dispatcher hands the request to the
handler that is registered for its protocol, or else to its fallback. Users of the
library add handlers of their own.
-/
namespace TunnelBench

/-- A way to answer requests. -/
inductive Handler where
  /-- Sends back every byte received. -/
  | rawEcho
  /-- Sends back the body of the request. -/
  | httpEcho
  /-- Sends the response stored under the path of the request. -/
  | files (library : Library)
  /-- A way of the user's own. -/
  | custom (answer : Descriptor → Transfer Unit)
  /-- Chooses by protocol among handlers, each protocol being registered at most once. -/
  | dispatch (routes : List (Protocol × Handler)) (fallback : Handler)

/-- The byte echo stands for any handler. -/
instance : Inhabited Handler := ⟨.rawEcho⟩

namespace Handler

/-- Copies the source to the sink, whatever the request is. -/
def answerRaw : Transfer Unit := do
  Transfer.copy
  Transfer.flush
  Transfer.flush

/-- The response that echoes a request: its body, if it declares one. -/
def echoResponse (request : Request) : Response :=
  match request.body with
  | some body => Response.ok.withBody body
  | none => Response.ok

/-- Reads the request and sends its body back. -/
def answerHttp : Transfer Unit := do
  let request ← Transfer.receive Request.read
  let response ← liftExcept (echoResponse request).render
  Transfer.send response
  Transfer.flush

/-- Sends what a library has under a path and reads nothing. -/
def answerFrom (library : Library) (descriptor : Descriptor) : Transfer Unit := do
  match library.get? descriptor.path with
  | some response => Transfer.send response
  | none =>
    Transfer.log (.resourceMissing descriptor)
    let response ← liftExcept Response.notFound.render
    Transfer.send response
  Transfer.flush

mutual

/-- Answers one request. -/
def proxy : Handler → Descriptor → Transfer Unit
  | .rawEcho, _ => answerRaw
  | .httpEcho, _ => answerHttp
  | .files library, descriptor => answerFrom library descriptor
  | .custom answer, descriptor => answer descriptor
  | .dispatch routes fallback, descriptor =>
    (proxyRegistered routes descriptor).getD (fallback.proxy descriptor)

/-- Answers one request by the handler that is registered for its protocol. -/
def proxyRegistered : List (Protocol × Handler) → Descriptor → Option (Transfer Unit)
  | [], _ => none
  | (protocol, handler) :: rest, descriptor =>
    if protocol = descriptor.protocol then some (handler.proxy descriptor)
    else proxyRegistered rest descriptor

end

end Handler
end TunnelBench
