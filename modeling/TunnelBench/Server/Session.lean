import TunnelBench.Server.Service

/-!
# Sessions

A session is a running server together with the clients that are connected to it.
Clients send pieces, read what the server sends, and end their sending; the server
goes on with each connection as far as the pieces received allow. After shutdown no
client can connect, and the connections that are open go on.
-/
namespace TunnelBench

/-- A client. -/
structure Client where
  /-- The place of its connection among all that were opened. -/
  connection : Nat
  /-- The number of bytes that the client has read. -/
  read : Nat := 0
  deriving DecidableEq, Repr

/-- A server and its clients. -/
structure Session where
  config : ServerConfig
  handler : Handler
  /-- Whether a client can reach the address of the server at all. -/
  reachable : Bool := true
  service : Service := {}
  /-- The clients by the names that they go by. -/
  clients : List (String × Client) := []
  /-- The number of events that were shown. -/
  shown : Nat := 0

namespace Session

/-- Whether the server accepts connections. -/
def serving (session : Session) : Bool := session.service.gate ≠ .closed

/-- A step of the server or a client, if it can be taken. -/
def act (action : Service.Action) (session : Session) : Session :=
  match session.service.step session.config session.handler action with
  | some service => { session with service }
  | none => session

/-- The client of a name in place of an earlier one. -/
def put (name : String) (client : Client) (session : Session) : Session :=
  { session with clients := (name, client) :: session.clients.filter (·.1 ≠ name) }

/-- The client of a name. -/
def client? (session : Session) (name : String) : Option Client := session.clients.lookup name

/-- A connection that was opened. -/
def channel (session : Session) (connection : Nat) : Channel :=
  session.service.channels[connection]?.getD {}

/-- The task of a connection receives all that its client has sent. -/
def receiveAll (connection : Nat) (session : Session) : Session :=
  session.act (.task connection (.receive (session.channel connection).pending.length))

/-- The task of a connection sends all that it has to send. -/
def answerAll (connection : Nat) (session : Session) : Session :=
  let outlook := (session.channel connection).outlook session.config session.handler
  session.act (.task connection (.answer outlook.sent.length))

/-- The task of a connection goes on as far as it can. -/
def advance (connection : Nat) (session : Session) : Session :=
  (((session.receiveAll connection).answerAll connection).act (.task connection .report)).act
    (.task connection .finish)

/-- A client sends pieces on its connection. -/
def send (name : String) (pieces : Source) (session : Session) : Session :=
  match session.client? name with
  | none => session
  | some client =>
    pieces.foldl (fun session piece =>
      (session.act (.client client.connection (.send piece.content))).advance client.connection)
      (session.advance client.connection)

/-- A client connects, if the server accepts connections, and sends its first pieces. -/
def connect (name : String) (pieces : Source) (session : Session) : Option Session :=
  if session.reachable && session.serving then
    let connection := session.service.channels.length
    let decided := [.connect, .accept, .load, .decide].foldl (fun session action =>
      session.act action) session
    some ((decided.put name { connection }).send name pieces)
  else none

/-- A client reads a number of bytes. -/
def read (name : String) (count : Nat) (session : Session) : Option (Bytes × Session) := do
  let client ← session.client? name
  let bytes := ((session.channel client.connection).sent.drop client.read).take count
  some (bytes, session.put name { client with read := client.read + bytes.length })

/-- The events that were not yet shown are shown. -/
def showEvents (session : Session) : List Event × Session :=
  let events := (session.service.log.drop session.shown).map (·.2)
  (events, { session with shown := session.service.log.length })

/-- A client reads to the end of its connection, to which some last step leads. -/
def readToEnd (name : String) (last : Nat → Service.Action) (session : Session) :
    Option (Bytes × List Event × Session) := do
  let client ← session.client? name
  let ended := (session.act (last client.connection)).advance client.connection
  let bytes := (ended.channel client.connection).sent.drop client.read
  let (events, shown) := ended.showEvents
  some (bytes, events, { shown with clients := shown.clients.filter (·.1 ≠ name) })

/-- A client ends its sending and reads to the end. -/
def finish (name : String) (session : Session) : Option (Bytes × List Event × Session) :=
  session.readToEnd name fun connection => .client connection .close

/-- A client stays silent and reads to the end. -/
def wait (name : String) (session : Session) : Option (Bytes × List Event × Session) :=
  session.readToEnd name fun connection => .task connection (.interrupt .deadline)

/-- A client connects, sends some pieces, ends its sending and reads to the end. -/
def exchange (pieces : Source) (session : Session) : Option (Bytes × List Event × Session) := do
  let connected ← session.connect "" pieces
  connected.finish ""

/-- The number of servers that a shutdown signal reaches. -/
def receivers (session : Session) : Nat := if session.serving then 1 else 0

/-- The server stops accepting connections. -/
def shutdown (session : Session) : Session := session.act .shutdown

end Session
end TunnelBench
