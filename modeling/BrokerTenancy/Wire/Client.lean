import BrokerTenancy.Wire.Address
import BrokerTenancy.Wire.Link
import BrokerTenancy.Wire.Message

/-!
A client of the admin protocol. It keeps at most one connection, sends one request at a time on it,
and reads one response. A connection is kept only after a whole response that belongs to the
request; after every other end of a call, also one that is given up while it waits, the connection
is closed and the next call makes a new one.
-/

namespace BrokerTenancy.Wire

structure Client where
  cluster : String
  servers : List String
  link : Option Link := none
  /-- How many connections it has made. -/
  connections : Nat := 0
  /-- How many requests it has numbered. -/
  requests : Nat := 0
  /-- What the encoder of requests says of one that it cannot write, if that is known. -/
  encoderText : AdminCall → Option String := fun _ => none

/-- What happens on the connections of a client. -/
inductive LinkEvent where
  | connected (link : Nat)
  | sent (link : Nat) (request : List UInt8)
  | closed (link : Nat)
  deriving DecidableEq, Repr

/-- A call with what it did and led to. One without an answer was given up while it waited. -/
structure Exchange where
  client : Client
  events : List LinkEvent
  answer : Option AdminAnswer

/-- The largest response that is read, in bytes. -/
def responseLimit : Int := 64 * 1024 * 1024

/-- Connects to the first server that accepts; `last` is the failure of the server before. -/
def dialFirst (dial : String → Dial) (last : BrokerFault) : List String → Progress Unit
  | [] => .failed last
  | server :: rest =>
      match dial server with
      | .accepted => .done ()
      | .refused cause => dialFirst dial (.unreachable server cause) rest
      | .silent => .waiting

/-- Reads one response and gives its message. -/
def Link.readFramed (link : Link) : Progress (List UInt8 × Link) := do
  let (lengthBytes, link) ← link.read 4 .unexpectedEnd
  let length := intOfWord 4 (decodeBig lengthBytes)
  if length < 0 ∨ responseLimit < length then .failed (.responseSize length)
  else link.read length.toNat .earlyEnd

/-- The body of a response, if it belongs to the request. -/
def bodyOf (correlation : Int) (message : List UInt8) : Progress (List UInt8) := do
  let (received, body) ← Progress.require .headerNotDecodable (readInteger 4 message)
  if received = correlation then .done body else .failed (.correlation correlation received)

/-- Reads the response to a request that was sent on a connection. -/
def Link.readAnswer (link : Link) (cluster : String) (correlation : Int) (call : AdminCall) :
    Progress (AdminAnswer × Link) := do
  let (message, link) ← link.readFramed
  let body ← bodyOf correlation message
  let answer ← Progress.require .responseNotDecodable (Wire.readAnswer cluster call body)
  .done (answer, link)

/-- The answer to a call that asks for nothing. -/
def emptyAnswer : AdminCall → Option AdminAnswer
  | .create [] => some (.created (.ok []))
  | .delete [] => some (.deleted (.ok []))
  | _ => none

namespace Client

/-- A client of the servers in a list; there has to be one. -/
def ofServers (cluster list : String) : Outcome Client :=
  match serversOf list with
  | [] => .error (.invalidSetting (.empty ("clusters." ++ cluster ++ ".bootstrap_servers")))
  | servers => .ok { cluster, servers }

/-- The kept connection, or else a new one, with what happens on the way. -/
def connected (client : Client) (peer : Peer) : Progress (Link × List LinkEvent) :=
  match client.link with
  | some link => .done (link, [])
  | none => do
      dialFirst peer.dial (.other "no bootstrap server") client.servers
      .done ({ number := client.connections }, [.connected client.connections])

/-- The end of a call that the client sees through on a connection: the connection is kept after
an answer and closed after anything else. -/
def conclude (client : Client) (call : AdminCall) (link : Nat) (events : List LinkEvent) :
    Progress (AdminAnswer × Link) → Exchange
  | .done (answer, kept) => { client := { client with link := some kept }, events, answer }
  | .failed fault => {
      client, events := events ++ [.closed link]
      answer := call.failedWith (.brokerUnavailable client.cluster fault) }
  | .waiting => { client, events := events ++ [.closed link], answer := none }

/-- Sends a request on a connection and reads its response. -/
def exchange (client : Client) (peer : Peer) (call : AdminCall) (link : Link)
    (events : List LinkEvent) : Exchange :=
  let correlation := correlationOf client.requests
  let client := {
    client with
    link := none
    connections := max client.connections (link.number + 1)
    requests := client.requests + 1 }
  match writeRequest correlation call with
  | none =>
      client.conclude call link.number events
        (.failed (.requestNotEncodable (client.encoderText call)))
  | some request =>
      match peer.takes link.number request with
      | .broken cause => client.conclude call link.number events (.failed (.system cause))
      | .stalled => client.conclude call link.number events .waiting
      | .whole =>
          let link := link.receive (peer.deliver link.number request)
          client.conclude call link.number (events ++ [.sent link.number request])
            (link.readAnswer client.cluster correlation call)

/-- Makes a call. One that asks for nothing is answered at once. -/
def call (client : Client) (peer : Peer) (call : AdminCall) : Exchange :=
  match emptyAnswer call with
  | some answer => { client, events := [], answer }
  | none =>
      match client.connected peer with
      | .done (link, events) => client.exchange peer call link events
      | .failed fault => {
          client, events := []
          answer := call.failedWith (.brokerUnavailable client.cluster fault) }
      | .waiting => { client, events := [], answer := none }

end Client

end BrokerTenancy.Wire
