import TunnelBench.Failure
import TunnelBench.Routing.Protocol

/-!
# Server configuration

Where a server listens, how many connections it has at a time, how long it waits, and
which protocol it takes connections for. Servers listen on the local machine only.
-/
namespace TunnelBench

/-- An address on the local machine. -/
structure Address where
  port : Nat
  deriving DecidableEq, Repr

/-- The text of an address. -/
def Address.text (address : Address) : String := "127.0.0.1:" ++ toString address.port

/-- How a server listens and serves. -/
structure ServerConfig where
  /-- Where to listen; port 0 asks for a free port. -/
  address : Address := ⟨0⟩
  /-- The most connections at a time. -/
  maxConnections : Nat := 100
  /-- The milliseconds in which the head of a request has to arrive. -/
  readTimeout : Nat := 30000
  /-- The milliseconds in which a handler has to finish. -/
  handlerTimeout : Nat := 30000
  /-- What every connection is taken to speak. -/
  protocol : Protocol := .http
  deriving DecidableEq, Repr

/-- Takes an address, which can be taken once; the flag tells whether it was taken before. -/
def bindAddress (address : String) (taken : Bool) : Except Failure Unit :=
  if taken then .error (.config (.bind address .addressInUse)) else .ok ()

end TunnelBench
