import ResolverGrader.IoError
import ResolverGrader.Net.Address

/-!
# Networks

All that a grading run can learn of the network: which address a socket gets
when it is bound, and what becomes of a datagram that is sent.

Two networks are described.  On a `loopback` network the host reaches itself
and nothing else.  A network `withoutRoutes` lets every socket be bound and
carries nothing.
-/

namespace ResolverGrader.Host

open ResolverGrader.Net

/-- A datagram on its way, with the address it comes from. -/
structure Datagram where
  sender : SocketAddress
  payload : Octets
  deriving DecidableEq, Repr

/-- What waiting for a datagram comes to. -/
inductive Receipt where
  | datagram (payload : Octets)
  | failed (error : IoError)
  | deadline
  deriving DecidableEq, Repr

/-- What becomes of a datagram. -/
inductive Passage where
  | delivered
  /-- It is sent, but arrives nowhere. -/
  | lost
  /-- It is not sent at all. -/
  | refused (error : IoError)
  deriving DecidableEq, Repr

/-- A network, seen from one host. -/
structure Network where
  /--
  The address of a socket that asks for an address; port zero asks for any
  port.
  -/
  bind : SocketAddress → Except IoError SocketAddress
  /-- What becomes of a payload for a recipient. -/
  passage : SocketAddress → Octets → Passage

namespace Network

/-- Whether a payload arrives at a recipient. -/
def carries
    (network : Network)
    (recipient : SocketAddress)
    (payload : Octets) :
    Bool :=
  network.passage recipient payload = .delivered

/-- Why a payload cannot be sent to a recipient, if so. -/
def sendError?
    (network : Network)
    (recipient : SocketAddress)
    (payload : Octets) :
    Option IoError :=
  match network.passage recipient payload with
  | .refused error => some error
  | .delivered | .lost => none

/-- The longest payload of a datagram over IPv4. -/
def maxPayload : Nat := 65507

/-- The longest payload that is looked at before a route is searched for. -/
def maxRouted : Nat := 65535

/-- The port that a socket gets when it asks for any. -/
def anyPort : UInt16 := 49152

/--
Whether two sockets cannot both be bound: they ask for one port, on one address
or on all.
-/
def conflict (wanted taken : SocketAddress) : Bool :=
  wanted.port = taken.port &&
    (wanted.ip = taken.ip || wanted.ip.isUnspecified || taken.ip.isUnspecified)

/-- Binds a socket where no other one is in its way. -/
def bindBeside (taken : List SocketAddress) (wanted : SocketAddress) :
    Except IoError SocketAddress :=
  if wanted.port = 0 then .ok (.of wanted.ip anyPort)
  else if taken.any (conflict wanted) then .error .addressInUse
  else .ok wanted

/-- Whether an address belongs to the host itself. -/
def isOwn : IpAddress → Bool
  | .v4 address => address.first = 127
  | .v6 address => address.groups = [0, 0, 0, 0, 0, 0, 0, 1]

/--
The network of a host that reaches itself and nothing else, with the sockets
that are bound already.
-/
def loopback (taken : List SocketAddress) : Network where
  bind wanted :=
    if isOwn wanted.ip || wanted.ip.isUnspecified then bindBeside taken wanted
    else .error .addressNotAvailable
  passage recipient payload :=
    if maxPayload < payload.length then .refused .messageTooLong
    else if isOwn recipient.ip || recipient.ip.isUnspecified then .delivered
    else .refused .networkUnreachable

/--
A network that lets every socket be bound and has no route, with the sockets
that are bound already.  Only the unspecified address needs no route, but what
is sent there is lost.
-/
def withoutRoutes (taken : List SocketAddress) : Network where
  bind := bindBeside taken
  passage recipient payload :=
    if recipient.ip.isUnspecified then
      if maxPayload < payload.length then .refused .messageTooLong else .lost
    else if maxRouted < payload.length then .refused .messageTooLong
    else .refused .networkUnreachable

end Network

end ResolverGrader.Host
