import ResolverGrader.Failure
import ResolverGrader.Host

/-!
# The single-shot listener

The listener stands in for the DNS server of the submission.  It is bound
before the submission is launched, captures the first datagram that reaches it,
sends the canonical response back to the sender of that datagram, and takes no
notice of any later one.

`deliverAll_waiting_cons` says all of that about any datagrams that arrive.
-/

namespace ResolverGrader

open ResolverGrader.Host ResolverGrader.Net

/-- A listener: it waits, or it has captured a datagram and is done. -/
inductive Listener where
  | waiting
  | done (captured : Octets)
  deriving DecidableEq, Repr

/-- What the listener sends. -/
structure Reply where
  recipient : SocketAddress
  payload : Octets
  deriving DecidableEq, Repr

namespace Listener

/-- How much of a datagram is captured. -/
def maxCaptured : Nat := 8192

/-- How often a random port is tried. -/
def maxAttempts : Nat := 5

/-- The smallest port that is tried at random. -/
def firstPort : Nat := 1024

/-- The port that a random number stands for: any but the privileged ones. -/
def portOfDraw (number : Nat) : UInt16 :=
  UInt16.ofNat (firstPort + number % (65536 - firstPort))

/-- Whether another port may have more luck. -/
def isWorthRetrying (error : IoError) : Bool :=
  error = .permissionDenied || error = .addressInUse

/-- Tries to bind the listener to one random port. -/
def tryRandom {ε : Type} (host : Host) (ip : IpAddress) :
    Action ε (Except IoError SocketAddress) := do
  Action.bindSocket host (.of ip (portOfDraw (← Action.draw host)))

/--
Binds the listener to a random port, given the number of this attempt and how
many may follow.
-/
def bindRandom (host : Host) (ip : IpAddress) (attempt : Nat) :
    Nat → Action Failure SocketAddress
  | 0 => do
    match ← tryRandom host ip with
    | .ok address => return address
    | .error source => throw (.bind ip attempt source)
  | left + 1 => do
    match ← tryRandom host ip with
    | .ok address => return address
    | .error source =>
      if isWorthRetrying source then bindRandom host ip (attempt + 1) left
      else throw (.bind ip attempt source)

/-- Binds the listener, to a fixed port or to a random one. -/
def bind (host : Host) (ip : IpAddress) :
    Option UInt16 → Action Failure SocketAddress
  | none => bindRandom host ip 1 (maxAttempts - 1)
  | some port => do
    match ← Action.bindSocket host (.of ip port) with
    | .ok address => return address
    | .error source => throw (.bind ip 1 source)

/-- What the listener has captured; no octets if nothing has reached it. -/
def captured : Listener → Octets
  | .waiting => []
  | .done octets => octets

/-- A datagram reaches the listener, which may reply. -/
def deliver (response : Octets) (listener : Listener) (datagram : Datagram) :
    Listener × Option Reply :=
  match listener with
  | .waiting =>
    (.done (datagram.payload.take maxCaptured),
      some ⟨datagram.sender, response⟩)
  | .done octets => (.done octets, none)

/-- Datagrams reach the listener one after the other. -/
def deliverAll (response : Octets) :
    Listener → List Datagram → Listener × List Reply
  | listener, [] => (listener, [])
  | listener, datagram :: rest =>
    let (next, reply) := listener.deliver response datagram
    let (last, replies) := deliverAll response next rest
    (last, reply.toList ++ replies)

@[simp]
theorem deliverAll_done
    (response octets : Octets)
    (datagrams : List Datagram) :
    deliverAll response (.done octets) datagrams = (.done octets, []) := by
  induction datagrams with
  | nil => rfl
  | cons datagram rest ih => simp [deliverAll, deliver, ih]

/--
The first datagram is captured and answered, and the later ones change nothing.
-/
theorem deliverAll_waiting_cons
    (response : Octets)
    (first : Datagram)
    (later : List Datagram) :
    deliverAll response .waiting (first :: later) =
      (.done (first.payload.take maxCaptured),
        [⟨first.sender, response⟩]) := by
  simp [deliverAll, deliver]

theorem firstPort_le_portOfDraw (number : Nat) :
    firstPort ≤ (portOfDraw number).toNat := by
  have small : number % (65536 - firstPort) < 65536 - firstPort :=
    Nat.mod_lt _ (by decide)
  simp only [portOfDraw, firstPort, UInt16.toNat_ofNat'] at *
  omega

end Listener

end ResolverGrader
