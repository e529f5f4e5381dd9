import TunnelBench.Tls.Identity

/-!
# Handshakes

Servers and clients with one identity, one protocol version and one cipher suite. No
side checks the certificates of the other, nothing is resumed, and a protocol is
agreed on if the client names any. The server reads the names of protocols from the
client's hello before all else, and signs before the client sees the certificates.
-/
namespace TunnelBench.Handshake

/-- The only protocol version. -/
def version : String := "TLSv1_2"

/-- The only cipher suite; it needs an RSA key. -/
def suite : String := "TLS_ECDHE_RSA_WITH_AES_128_GCM_SHA256"

/-- The protocol that both sides name. -/
def protocol : Bytes := .ofString "h2"

/-- How a server is set up. -/
structure ServerSetup where
  ignoreClientOrder : Bool := true
  ticketsSent : Nat := 0
  ticketsEnabled : Bool := false
  sessionsStored : Bool := false
  protocols : List Bytes := [protocol]
  suites : List String := [suite]
  deriving DecidableEq, Repr

/-- How a client is set up. -/
structure ClientSetup where
  protocols : List Bytes := [protocol]
  suites : List String := [suite]
  /-- Whether the client has the certificates of its identity. -/
  presents : Bool := true
  deriving DecidableEq, Repr

/-- The sides of a connection. -/
inductive Role where
  | client
  | server
  deriving DecidableEq, Repr

/-- Why a handshake fails. -/
inductive Refusal where
  | noCommonSuite
  | noCommonProtocol
  /-- A protocol has no name. -/
  | emptyName
  /-- The names of protocols end within one. -/
  | nameCutOff
  /-- The server chose a protocol that the client did not name. -/
  | protocolNotNamed
  /-- A signature does not come true. -/
  | signature
  /-- The reader is sent a message that is too long. -/
  | messageTooLong (reader : Role)
  deriving DecidableEq, Repr

/-- The wording of a refusal. -/
def Refusal.message : Refusal → String
  | .noCommonSuite => "peer is incompatible: NoCipherSuitesInCommon"
  | .noCommonProtocol => "peer doesn't support any known protocol"
  | .emptyName => "received corrupt message of type IllegalEmptyValue"
  | .nameCutOff => "received corrupt message of type MessageTooShort"
  | .protocolNotNamed => "peer misbehaved: SelectedUnofferedApplicationProtocol"
  | .signature => "unexpected error: signing failed"
  | .messageTooLong _ => "received corrupt message of type HandshakePayloadTooLarge"

/-- The side that refuses. -/
def Refusal.refuser : Refusal → Role
  | .messageTooLong reader => reader
  | .protocolNotNamed => .client
  | _ => .server

/-- What one side knows when the handshake is done. -/
structure Side where
  /-- The protocol agreed on. -/
  agreed : Option Bytes
  /-- The number of certificates that the other side presented. -/
  peerCertificates : Option Nat
  deriving DecidableEq, Repr

/-- A connection that is ready. -/
structure Connected where
  client : Side
  server : Side
  deriving DecidableEq, Repr

/-- The protocol agreed on: the first of the server's that the client names, and none if the
client names none. -/
def agree (server client : List Bytes) : Except Refusal (Option Bytes) :=
  if client.isEmpty then .ok none
  else
    match server.find? client.contains with
    | some common => .ok (some common)
    | none => .error .noCommonProtocol

/-- The suites that a key can be used with. -/
def usable (kind : KeyKind) (suites : List String) : List String :=
  match kind with
  | .rsa => suites
  | _ => []

/-- The most bytes of a message. -/
def longestMessage : Nat := 0xFFFF

/-- The names of protocols as a hello holds them: each follows one byte with its length, of
which a long name keeps the lowest byte only. -/
def writeNames (names : List Bytes) : Bytes :=
  names.flatMap fun name => UInt8.ofNat name.length :: name

/-- Reads the names of protocols; none may be empty. -/
def readNames : Bytes → Except Refusal (List Bytes)
  | [] => .ok []
  | length :: rest =>
    if length == 0 then .error .emptyName
    else if rest.length < length.toNat then .error .nameCutOff
    else do
      let names ← readNames (rest.drop length.toNat)
      return rest.take length.toNat :: names
termination_by bytes => bytes.length
decreasing_by simp only [List.length_drop, List.length_cons]; omega

/-- The bytes of a hello that names no protocol but has room for such names. -/
def shortestHello : Nat := 131

/-- The protocols that the server finds in the hello of a client. -/
def heard (names : List Bytes) : Except Refusal (List Bytes) :=
  let written := writeNames names
  if longestMessage < shortestHello + written.length then .error (.messageTooLong .server)
  else readNames written

/-- The bytes of the message that carries certificates: three give the length of each of them,
and three that of all. -/
def messageLength (chain : List Bytes) : Nat :=
  chain.foldl (fun total certificate => total + 3 + certificate.length) 3

/-- Connects a client and a server with an identity. -/
def connect (identity : Identity) (client : ClientSetup) (server : ServerSetup) :
    Except Refusal Connected := do
  let protocols ← heard client.protocols
  match (usable identity.key.publicPart.kind server.suites).find? client.suites.contains with
  | none => .error .noCommonSuite
  | some _ =>
    let agreed ← agree server.protocols protocols
    if !identity.key.signs then .error .signature
    else if longestMessage < messageLength identity.chain then .error (.messageTooLong .client)
    else if !agreed.all client.protocols.contains then .error .protocolNotNamed
    else .ok {
      client := ⟨agreed, some identity.chain.length⟩
      server := ⟨agreed, if client.presents then some identity.chain.length else none⟩ }

end TunnelBench.Handshake
