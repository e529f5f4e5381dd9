import TunnelBench.Handler.Dispatcher
import TunnelBench.Proofs.Handler.Standard
import TunnelBench.Proofs.Text.Utf8

/-!
# The choice of a handler

Dispatchers are built by calls, and stand in one another as registered handlers and as
fallbacks. Of such a tree only one handler at a leaf ever answers a request, and which one
it is depends on the protocol alone.
-/
namespace TunnelBench

namespace Protocol

/-- The tag "http" in small letters, byte by byte. -/
theorem ofString_http : Bytes.ofString "http" = [104, 116, 116, 112] := by decide

/-- A tag names the protocol of requests for paths in any case of its letters. -/
theorem ofTag_eq_http_iff (tag : String) : ofTag tag = .http ↔ tag.toLower = "http" := by
  rw [← Utf8.ofString_inj, ← Bytes.lower_ofString, ofString_http]
  unfold ofTag
  split
  · simp [*]
  · simp [*]
  · simp [*]
  · next _ _ other =>
    exact ⟨nofun, fun same => absurd same other⟩

/-- The tag of the protocol that a tag names stands for the same protocol. -/
theorem ofTag_tag_ofTag (tag : String) : ofTag (ofTag tag).tag = ofTag tag := by
  match named : ofTag tag with
  | .raw => decide
  | .http => decide
  | .other kept =>
    have verbatim : kept = tag := by
      unfold ofTag at named
      split at named <;> first | contradiction | exact (Protocol.other.inj named).symm
    rw [Protocol.tag, verbatim, named, verbatim]

end Protocol

namespace Dispatcher

/-- The handler registered for a protocol, if there is one. -/
def registered? (dispatcher : Dispatcher) (protocol : Protocol) : Option Handler :=
  (dispatcher.routes.find? (·.1 == protocol)).map (·.2)

/-- The handler for a protocol is the registered one, or else the fallback. -/
theorem handlerFor_eq (dispatcher : Dispatcher) (protocol : Protocol) :
    dispatcher.handlerFor protocol =
      (dispatcher.registered? protocol).getD dispatcher.fallback := by
  unfold handlerFor registered?
  cases dispatcher.routes.find? (·.1 == protocol) <;> rfl

/-- A protocol is registered if a handler is registered for it. -/
theorem isRegistered_eq (dispatcher : Dispatcher) (protocol : Protocol) :
    dispatcher.isRegistered protocol = (dispatcher.registered? protocol).isSome := by
  rw [isRegistered, registered?, Option.isSome_map, List.isSome_find?]

/-- A new dispatcher has nothing registered. -/
theorem registered?_new (fallback : Handler) (protocol : Protocol) :
    (new fallback).registered? protocol = none := rfl

/-- Among routes a handler is found for its own protocol, and others as before. -/
theorem find?_setRoute (protocol wanted : Protocol) (handler : Handler)
    (routes : List (Protocol × Handler)) :
    ((setRoute protocol handler routes).find? (·.1 == wanted)).map (·.2) =
      if protocol = wanted then some handler
      else (routes.find? (·.1 == wanted)).map (·.2) := by
  induction routes with
  | nil =>
    rw [setRoute]
    by_cases same : protocol = wanted
    · simp [same]
    · simp [same]
  | cons route rest ih =>
    obtain ⟨present, old⟩ := route
    rw [setRoute]
    by_cases replaced : present = protocol
    · subst replaced
      by_cases same : present = wanted
      · simp [same]
      · simp [same]
    · by_cases found : present = wanted
      · subst found
        simp [replaced, Ne.symm replaced]
      · simp [replaced, found, ih]

/-- What is registered for a protocol was registered last, and others stay as they were. -/
theorem registered?_register (dispatcher : Dispatcher) (protocol wanted : Protocol)
    (handler : Handler) :
    (dispatcher.register protocol handler).registered? wanted =
      if protocol = wanted then some handler else dispatcher.registered? wanted :=
  find?_setRoute protocol wanted handler dispatcher.routes

/-- The handler for a protocol is the one registered last for it. -/
theorem handlerFor_register (dispatcher : Dispatcher) (protocol wanted : Protocol)
    (handler : Handler) :
    (dispatcher.register protocol handler).handlerFor wanted =
      if protocol = wanted then handler else dispatcher.handlerFor wanted := by
  rw [handlerFor_eq, handlerFor_eq, registered?_register]
  by_cases same : protocol = wanted
  · rw [if_pos same, if_pos same, Option.getD_some]
  · rw [if_neg same, if_neg same]
    rfl

/-- A protocol is registered by its own registration, and others stay as they were. -/
theorem isRegistered_register (dispatcher : Dispatcher) (protocol wanted : Protocol)
    (handler : Handler) :
    (dispatcher.register protocol handler).isRegistered wanted =
      (decide (protocol = wanted) || dispatcher.isRegistered wanted) := by
  rw [isRegistered_eq, isRegistered_eq, registered?_register]
  by_cases same : protocol = wanted
  · simp [same]
  · simp [same]

/-- A dispatcher does for a request what its handler for the protocol does. -/
theorem proxy_toHandler (dispatcher : Dispatcher) (descriptor : Descriptor) :
    dispatcher.toHandler.proxy descriptor =
      (dispatcher.handlerFor descriptor.protocol).proxy descriptor := by
  have test : (fun route : Protocol × Handler => decide (route.1 = descriptor.protocol)) =
      fun route => route.1 == descriptor.protocol := by
    funext route
    exact Bool.beq_eq_decide_eq _ _ |>.symm
  rw [toHandler, Handler.proxy, Handler.proxyRegistered_eq, test, handlerFor]
  cases dispatcher.routes.find? (·.1 == descriptor.protocol) <;> rfl

/-- The dispatcher after some registrations, made one after another. -/
def registerAll (registrations : List (Protocol × Handler)) (dispatcher : Dispatcher) :
    Dispatcher :=
  registrations.foldl (fun dispatcher route => dispatcher.register route.1 route.2) dispatcher

/-- Two dispatchers that no request and no question about a protocol can tell apart. -/
structure Alike (left right : Dispatcher) : Prop where
  handlers : ∀ protocol, left.handlerFor protocol = right.handlerFor protocol
  registered : ∀ protocol, left.isRegistered protocol = right.isRegistered protocol
  answers : ∀ descriptor, left.toHandler.proxy descriptor = right.toHandler.proxy descriptor

/-- Dispatchers are alike if they have the same handlers and protocols. -/
theorem Alike.of_handlers {left right : Dispatcher}
    (handlers : ∀ protocol, left.handlerFor protocol = right.handlerFor protocol)
    (registered : ∀ protocol, left.isRegistered protocol = right.isRegistered protocol) :
    left.Alike right where
  handlers := handlers
  registered := registered
  answers descriptor := by rw [proxy_toHandler, proxy_toHandler, handlers]

/-- One more registration keeps dispatchers alike. -/
theorem Alike.register {left right : Dispatcher} (alike : left.Alike right)
    (protocol : Protocol) (handler : Handler) :
    (left.register protocol handler).Alike (right.register protocol handler) := by
  apply Alike.of_handlers
  · intro wanted
    rw [handlerFor_register, handlerFor_register, alike.handlers]
  · intro wanted
    rw [isRegistered_register, isRegistered_register, alike.registered]

/-- Later registrations keep dispatchers alike. -/
theorem Alike.registerAll {left right : Dispatcher} (alike : left.Alike right)
    (later : List (Protocol × Handler)) :
    (left.registerAll later).Alike (right.registerAll later) := by
  induction later generalizing left right with
  | nil => exact alike
  | cons route later ih => exact ih (alike.register route.1 route.2)

/-- Registrations for two protocols may be made in either order. -/
theorem alike_register_comm (dispatcher : Dispatcher) {first second : Protocol}
    (distinct : first ≠ second) (one other : Handler) :
    ((dispatcher.register first one).register second other).Alike
      ((dispatcher.register second other).register first one) := by
  apply Alike.of_handlers
  · intro wanted
    simp only [handlerFor_register]
    by_cases same : second = wanted
    · subst same
      simp only [↓reduceIte, if_neg distinct]
    · simp only [if_neg same]
  · intro wanted
    simp only [isRegistered_register]
    exact Bool.or_left_comm _ _ _

end Dispatcher

namespace Handler

/-- A handler that does not choose among others. -/
inductive Leaf where
  | rawEcho
  | httpEcho
  | files (library : Library)
  | custom (answer : Descriptor → Transfer Unit)

/-- The handler at a leaf. -/
def Leaf.handler : Leaf → Handler
  | .rawEcho => .rawEcho
  | .httpEcho => .httpEcho
  | .files library => .files library
  | .custom answer => .custom answer

mutual

/-- A handler as its user puts it together. -/
inductive Assembly where
  | leaf (leaf : Leaf)
  | dispatcher (calls : Calls)

/-- The calls that build a dispatcher, the last one outermost. -/
inductive Calls where
  | new (fallback : Assembly)
  | echo
  | register (earlier : Calls) (protocol : Protocol) (handler : Assembly)

end

mutual

/-- The handler that is put together. -/
def Assembly.handler : Assembly → Handler
  | .leaf leaf => leaf.handler
  | .dispatcher calls => calls.dispatcher.toHandler

/-- The dispatcher that the calls build. -/
def Calls.dispatcher : Calls → Dispatcher
  | .new fallback => .new fallback.handler
  | .echo => .echo
  | .register earlier protocol handler => earlier.dispatcher.register protocol handler.handler

end

mutual

/-- The leaf reached for a protocol. -/
def Assembly.leafFor : Assembly → Protocol → Leaf
  | .leaf leaf, _ => leaf
  | .dispatcher calls, protocol => calls.leafFor protocol

/-- The leaf reached through the handler registered last for a protocol, or else through the
fallback. -/
def Calls.leafFor : Calls → Protocol → Leaf
  | .new fallback, protocol => fallback.leafFor protocol
  | .echo, protocol => if protocol = .http then .httpEcho else .rawEcho
  | .register earlier named handler, protocol =>
    if named = protocol then handler.leafFor protocol else earlier.leafFor protocol

end

/-- The protocols that the calls name. -/
def Calls.named : Calls → List Protocol
  | .new _ => []
  | .echo => [.http]
  | .register earlier protocol _ => protocol :: earlier.named

/-- The echo dispatcher has one handler for requests for paths, and one for all others. -/
theorem handlerFor_echo (protocol : Protocol) :
    Dispatcher.echo.handlerFor protocol = if protocol = .http then .httpEcho else .rawEcho := by
  rw [Dispatcher.echo, Dispatcher.handlerFor_register]
  simp only [eq_comm (a := Protocol.http)]
  rfl

mutual

/-- A handler does for a request what the leaf for its protocol does. -/
theorem Assembly.proxy_handler (assembly : Assembly) (descriptor : Descriptor) :
    assembly.handler.proxy descriptor =
      (assembly.leafFor descriptor.protocol).handler.proxy descriptor := by
  cases assembly with
  | leaf leaf => rw [Assembly.handler, Assembly.leafFor]
  | dispatcher calls =>
    rw [Assembly.handler, Assembly.leafFor, Dispatcher.proxy_toHandler, calls.proxy_handlerFor]

/-- The handler for a protocol does what the leaf for it does. -/
theorem Calls.proxy_handlerFor (calls : Calls) (descriptor : Descriptor) :
    (calls.dispatcher.handlerFor descriptor.protocol).proxy descriptor =
      (calls.leafFor descriptor.protocol).handler.proxy descriptor := by
  cases calls with
  | new fallback =>
    rw [Calls.dispatcher, Calls.leafFor, ← fallback.proxy_handler]
    rfl
  | echo =>
    rw [Calls.dispatcher, Calls.leafFor, handlerFor_echo]
    split <;> rfl
  | register earlier named handler =>
    -- The last call decides for its own protocol; for the others the earlier ones do.
    rw [Calls.dispatcher, Calls.leafFor, Dispatcher.handlerFor_register]
    by_cases same : named = descriptor.protocol
    · rw [if_pos same, if_pos same, handler.proxy_handler]
    · rw [if_neg same, if_neg same, earlier.proxy_handlerFor]

end

/-- A dispatcher has the protocols that its calls name. -/
theorem Calls.isRegistered_dispatcher (calls : Calls) (protocol : Protocol) :
    calls.dispatcher.isRegistered protocol = true ↔ protocol ∈ calls.named := by
  match calls with
  | .new fallback =>
    rw [Calls.dispatcher, Calls.named, Dispatcher.isRegistered_eq, Dispatcher.registered?_new]
    simp
  | .echo =>
    rw [Calls.dispatcher, Calls.named, Dispatcher.echo, Dispatcher.isRegistered_register,
      Dispatcher.isRegistered_eq, Dispatcher.registered?_new]
    simp [eq_comm]
  | .register earlier named handler =>
    rw [Calls.dispatcher, Calls.named, Dispatcher.isRegistered_register, List.mem_cons,
      Bool.or_eq_true, earlier.isRegistered_dispatcher, decide_eq_true_eq]
    exact or_congr_left eq_comm

/-- The leaf of the echo dispatcher for a tag depends on the letters of the tag in any case. -/
theorem leafFor_echo_ofTag (tag : String) :
    Calls.echo.leafFor (.ofTag tag) =
      if tag.toLower = "http" then .httpEcho else .rawEcho := by
  rw [Calls.leafFor]
  simp only [Protocol.ofTag_eq_http_iff]

/-- Handlers and dispatchers put together in any way answer each request as one leaf does, which
the protocol alone selects: at each dispatcher the handler registered last for it is taken, and
else the fallback. A protocol is registered exactly if a call named it, registrations for two
protocols may be made in either order whatever else is registered later, a tag reaches the echo
of bodies exactly if it is "http" in any case of its letters, and the tag of a protocol named by
a tag names that protocol. -/
theorem dispatch_by_protocol :
    (∀ (assembly : Assembly) (descriptor : Descriptor) (exchange : Exchange),
      Transfer.run (assembly.handler.proxy descriptor) exchange =
        Transfer.run ((assembly.leafFor descriptor.protocol).handler.proxy descriptor)
          exchange) ∧
    (∀ (calls : Calls) (protocol : Protocol),
      calls.dispatcher.isRegistered protocol = true ↔ protocol ∈ calls.named) ∧
    (∀ (dispatcher : Dispatcher) (first second : Protocol) (one other : Handler)
      (later : List (Protocol × Handler)), first ≠ second →
        (((dispatcher.register first one).register second other).registerAll later).Alike
          (((dispatcher.register second other).register first one).registerAll later)) ∧
    (∀ tag, Calls.echo.leafFor (.ofTag tag) =
      if tag.toLower = "http" then .httpEcho else .rawEcho) ∧
    ∀ tag, Protocol.ofTag (Protocol.ofTag tag).tag = .ofTag tag := by
  refine ⟨fun assembly descriptor exchange => ?_, Calls.isRegistered_dispatcher,
    fun dispatcher first second one other later distinct => ?_, leafFor_echo_ofTag,
    Protocol.ofTag_tag_ofTag⟩
  · rw [assembly.proxy_handler]
  · exact (dispatcher.alike_register_comm distinct one other).registerAll later

/-- A dispatcher in a dispatcher: the handler for web sockets was replaced by a dispatcher, and
what is unknown goes to the echo dispatcher. -/
def nestedCalls : Calls :=
  .register (.register (.new (.dispatcher .echo)) (.other "ws") (.leaf .rawEcho)) (.other "ws")
    (.dispatcher (.new (.leaf .httpEcho)))

/-- Web sockets reach the later handler, unknown tags and requests for paths the two echoes of the
fallback, and two protocols may be registered in either order. -/
theorem dispatch_nested :
    (∀ path exchange,
      Transfer.run (nestedCalls.dispatcher.toHandler.proxy ⟨.ofTag "ws", path⟩) exchange =
        Transfer.run answerHttp exchange) ∧
    (∀ path exchange,
      Transfer.run (nestedCalls.dispatcher.toHandler.proxy ⟨.ofTag "smtp", path⟩) exchange =
        Transfer.run answerRaw exchange) ∧
    (∀ path exchange,
      Transfer.run (nestedCalls.dispatcher.toHandler.proxy ⟨.ofTag "HTTP", path⟩) exchange =
        Transfer.run answerHttp exchange) ∧
    nestedCalls.dispatcher.isRegistered (.other "ws") = true ∧
    (((nestedCalls.dispatcher.register .raw .httpEcho).register .http .rawEcho).registerAll
      [(.other "ws", .httpEcho)]).Alike
      (((nestedCalls.dispatcher.register .http .rawEcho).register .raw .httpEcho).registerAll
        [(.other "ws", .httpEcho)]) := by
  obtain ⟨answers, registered, commute, -, -⟩ := dispatch_by_protocol
  refine ⟨fun path exchange => ?_, fun path exchange => ?_, fun path exchange => ?_, ?_, ?_⟩
  · exact (answers (.dispatcher nestedCalls) ⟨.ofTag "ws", path⟩ exchange).trans rfl
  · exact (answers (.dispatcher nestedCalls) ⟨.ofTag "smtp", path⟩ exchange).trans rfl
  · exact (answers (.dispatcher nestedCalls) ⟨.ofTag "HTTP", path⟩ exchange).trans rfl
  · exact (registered nestedCalls (.other "ws")).2 List.mem_cons_self
  · exact commute nestedCalls.dispatcher .raw .http .httpEcho .rawEcho _ nofun

end Handler
end TunnelBench
