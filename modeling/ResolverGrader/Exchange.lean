import ResolverGrader.Dns.Message
import ResolverGrader.Failure
import ResolverGrader.Host
import ResolverGrader.Settings

/-!
# Canonical exchanges

What a correct resolver asks for a query name, and what the DNS server answers
to that.  A response has the identifier of its query.  Up to three datagrams
are looked at to find it; those that are no messages, no responses or responses
to something else are passed over.
-/

namespace ResolverGrader

open ResolverGrader.Dns ResolverGrader.Host ResolverGrader.Net

/--
A query and the response to it, the latter also exactly as it was received.
-/
structure Exchange where
  query : Octets
  response : Message
  responseWire : Octets

namespace Exchange

/-- How many datagrams are looked at. -/
def maxReceipts : Nat := 3

/-- How much of a datagram from the server is received. -/
def maxReceived : Nat := 4096

/-- Why there is no response. -/
inductive Silence where
  | broken (error : IoError)
  | unanswered
  deriving DecidableEq, Repr

/-- The text of a silence that was waited through for a time. -/
def Silence.detail (timeout : Duration) : Silence → String
  | .broken error => error.message
  | .unanswered =>
    "no response within " ++ toString timeout.milliseconds ++ " ms"

/-- The address from which any server of the same version is asked. -/
def localAddress : SocketAddress → SocketAddress
  | .v4 .. => .v4 ⟨0, 0, 0, 0⟩ 0
  | .v6 .. => .v6 ⟨List.replicate 8 0, rfl⟩ 0 0

/--
The message in some octets, if it is a response with the given identifier.
-/
def matching? (id : UInt16) (octets : Octets) : Option Message :=
  (Message.decode? octets).filter fun message =>
    message.id = id && message.isResponse

/--
Looks for the response among what arrives, for as many receipts as are left.
-/
def awaitResponse (id : UInt16) :
    Nat → List Receipt → Except Silence (Message × Octets)
  | 0, _ | _ + 1, [] | _ + 1, .deadline :: _ => .error .unanswered
  | _ + 1, .failed error :: _ => .error (.broken error)
  | left + 1, .datagram payload :: rest =>
    let octets := payload.take maxReceived
    match matching? id octets with
    | some message => .ok (message, octets)
    | none => awaitResponse id left rest

/--
The response among what arrives; nothing is received if there is no time for
it.
-/
def receive (id : UInt16) (timeout : Duration) (receipts : List Receipt) :
    Except Silence (Message × Octets) :=
  awaitResponse id (if timeout.isZero then 0 else maxReceipts) receipts

/-- Sends a query and waits for the response to it. -/
def askServer
    {ε : Type}
    (host : Host)
    (server : SocketAddress)
    (timeout : Duration)
    (id : UInt16)
    (query : Octets) :
    Action ε (Except Silence (Message × Octets)) := do
  match ← Action.bindSocket host (localAddress server) with
  | .error error => return .error (.broken error)
  | .ok _ =>
    match ← Action.ask host server query with
    | .error error => return .error (.broken error)
    | .ok receipts => return receive id timeout receipts

/--
The canonical exchange for a query name.  No socket is used for a name that is
invalid.
-/
def fetch (host : Host) (settings : Settings) (queryName : String) :
    Action Failure Exchange := do
  let id := UInt16.ofNat (← Action.draw host)
  match canonicalQuery queryName id with
  | .error error => throw (.invalidName queryName error.message)
  | .ok query =>
    match ← askServer host settings.server settings.timeout id query with
    | .error silence =>
      throw (.server queryName settings.server
        (silence.detail settings.timeout))
    | .ok (response, responseWire) => return ⟨query, response, responseWire⟩

end Exchange

end ResolverGrader
